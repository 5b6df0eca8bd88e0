import Livery.Json.Basic

/-!
# Values in content

`Json.isTruthy` says when a value counts as present in a condition, and `Json.display` is its text
in content and attributes.
-/

namespace Livery.Json

/-- Whether a value counts as present: all but `null`, `false`, zero and the empty text. -/
def isTruthy : Json → Bool
  | .null => false
  | .bool b => b
  | .num n => let x := n.toDouble; !x.isZero && !x.isNaN
  | .str s => s ≠ ""
  | .arr _ => true
  | .obj _ => true

mutual

/-- The text of a value in content; the items of an array are joined by commas. -/
def display : Json → String
  | .null => ""
  | .bool b => if b then "true" else "false"
  | .num n => plainNumber n.toDouble
  | .str s => s
  | .arr items => ",".intercalate (displayItems items)
  | .obj _ => "[object Object]"

/-- The texts of the items. -/
def displayItems : List Json → List String
  | [] => []
  | v :: rest => display v :: displayItems rest

end

end Livery.Json
