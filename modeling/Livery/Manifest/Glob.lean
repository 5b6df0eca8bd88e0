/-!
# Globs

A `Glob` is a pattern over paths: `*` stands for any text without a slash, `**` for any text without
a line break, and every other character for itself. `Glob.ofText` reads a pattern from left to
right, where two stars are taken together.

`Glob.accepts` decides whether a pattern matches a whole text. It goes through the text from its end
and keeps, for every end of the pattern, whether that matches what has been gone through.
-/

namespace Livery

/-- A token of a pattern. -/
inductive GlobToken
  | literal (c : Char)
  /-- Any text within a segment. -/
  | segment
  /-- Any text within a line. -/
  | line
deriving DecidableEq

/-- A pattern over paths. -/
abbrev Glob := List GlobToken

namespace GlobToken

/-- Whether the token stands for texts of any length that are made of characters such as this. -/
def spans (c : Char) : GlobToken → Bool
  | .literal _ => false
  | .segment => c ≠ '/'
  | .line => c ≠ '\n'

/-- Whether the token stands for the empty text. -/
def isEmptiable : GlobToken → Bool
  | .literal _ => false
  | _ => true

end GlobToken

namespace Glob

/-- The pattern that characters write. -/
def ofChars : List Char → Glob
  | '*' :: '*' :: rest => .line :: ofChars rest
  | '*' :: rest => .segment :: ofChars rest
  | c :: rest => .literal c :: ofChars rest
  | [] => []

/-- The pattern that a text writes. -/
def ofText (s : String) : Glob := ofChars s.toList

/-- For every end of a pattern, the longest first, whether it matches the empty text. -/
def emptyRow : Glob → List Bool
  | [] => [true]
  | t :: rest =>
    let row := emptyRow rest
    (t.isEmptiable && row.headD false) :: row

/--
For every end of a pattern, whether it matches a text that starts with `c`, where `next` says the
same of the text behind `c`.
-/
def stepRow (c : Char) : Glob → List Bool → List Bool
  | [], _ => [false]
  | t :: rest, next =>
    let row := stepRow c rest next.tail
    let matched := match t with
      | .literal d => d = c && next.tail.headD false
      | t => row.headD false || (t.spans c && next.headD false)
    matched :: row

/-- Whether a pattern matches the whole of a text. -/
def accepts (g : Glob) (s : String) : Bool :=
  (s.toList.foldr (fun c row => stepRow c g row) (emptyRow g)).headD false

end Glob

end Livery
