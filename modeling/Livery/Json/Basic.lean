import Livery.Decimal.Notation
import Livery.Dict

/-!
# JSON values

Values as configurations and pages hold them. Objects keep the order of their fields, and a number
is either an integer or a double precision number, as its text was written. A place inside a value
is a `Path` of field names and indices; `Json.at?` reads the value there, and `Path.render` writes
the path in dotted form, as in `routeRules[0].layout`.

`Json.WellFormed` says that no object repeats a key, which is what reading a text guarantees.
-/

namespace Livery

/-- A number, as an integer or in double precision. -/
inductive Json.Number
  | int (n : Int)
  | float (x : Double)
deriving DecidableEq

/-- A JSON value. -/
inductive Json
  | null
  | bool (b : Bool)
  | num (n : Json.Number)
  | str (s : String)
  | arr (items : List Json)
  | obj (fields : List (String × Json))

namespace Json

instance : Inhabited Json := ⟨.null⟩

/-- The number in double precision. -/
def Number.toDouble : Number → Double
  | .int n => Double.ofInt n
  | .float x => x

/-- The number as a natural number below `bound`, if it is an integer in that range. -/
def Number.below? (bound : Nat) : Number → Option Nat
  | .int n => if 0 ≤ n ∧ n < bound then some n.toNat else none
  | .float _ => none

/-- The text, if the value is one. -/
def asText? : Json → Option String
  | .str s => some s
  | _ => none

/-- The items, if the value is an array. -/
def asItems? : Json → Option (List Json)
  | .arr items => some items
  | _ => none

/-- The fields, if the value is an object. -/
def asFields? : Json → Option (Entries Json)
  | .obj fields => some fields
  | _ => none

/-- Whether the value is a text. -/
def isText (v : Json) : Bool := v.asText?.isSome

/-- Whether the value is an array. -/
def isArray (v : Json) : Bool := v.asItems?.isSome

/-- The value of a field, if the value is an object that has it. -/
def field? (key : String) : Json → Option Json
  | .obj fields => fields.lookup key
  | _ => none

/-- An object with the fields that have a value, in order. -/
def record (fields : List (String × Option Json)) : Json :=
  .obj (fields.filterMap fun p => p.2.map fun v => (p.1, v))

mutual

/-- No object in the value repeats a key. -/
def WellFormed : Json → Prop
  | .arr items => WellFormedItems items
  | .obj fields => (Entries.keys fields).Nodup ∧ WellFormedFields fields
  | _ => True

/-- `WellFormed` for every item. -/
def WellFormedItems : List Json → Prop
  | [] => True
  | v :: rest => WellFormed v ∧ WellFormedItems rest

/-- `WellFormed` for the value of every field. -/
def WellFormedFields : List (String × Json) → Prop
  | [] => True
  | (_, v) :: rest => WellFormed v ∧ WellFormedFields rest

end

end Json

/-- One step into a value. -/
inductive Step
  /-- To the value of a field. -/
  | field (name : String)
  /-- To an item of an array. -/
  | index (i : Nat)
deriving DecidableEq

/-- A place inside a value, from the root. -/
abbrev Path := List Step

namespace Path

/-- The steps behind the first one, in dotted form. -/
def renderRest : Path → String
  | [] => ""
  | .field name :: rest => "." ++ name ++ renderRest rest
  | .index i :: rest => "[" ++ Nat.repr i ++ "]" ++ renderRest rest

/-- The path in dotted form; the root is the empty text. -/
def render : Path → String
  | .field name :: rest => name ++ renderRest rest
  | p => renderRest p

end Path

namespace Json

/-- The value one step further. -/
def step? (v : Json) : Step → Option Json
  | .field name => v.field? name
  | .index i => v.asItems?.bind fun items => items[i]?

/-- The value at a place. -/
def at? (v : Json) : Path → Option Json
  | [] => some v
  | s :: rest => (v.step? s).bind fun w => w.at? rest

end Json

end Livery
