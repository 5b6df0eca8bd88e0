import Livery.Text.Casing
import Livery.Text.Digit
import Livery.Theme.Config

/-!
# Text transforms

`TextTransform.apply` changes a modifier value before it becomes text. The duration transform reads
the time of an ISO 8601 duration behind the first `PT`, as in `PT1H30M`, and writes its parts with
blanks between them, as in `1h 30m`. A text without such parts stays as it is.
-/

namespace Livery

namespace Duration

/-- What stands behind the first `PT`. -/
def behindMark? : List Char → Option (List Char)
  | 'P' :: 'T' :: rest => some rest
  | _ :: rest => behindMark? rest
  | [] => none

/-- The digits in front of a unit at the start, and what stands behind the unit. -/
def part? (unit : Char) (cs : List Char) : Option (List Char × List Char) :=
  let digits := cs.takeWhile Text.isDigit
  match digits, cs.dropWhile Text.isDigit with
  | _ :: _, c :: rest => if c = unit then some (digits, rest) else none
  | _, _ => none

/-- The parts of a time, for units in the order in which they may occur. -/
def parts : List (Char × Char) → List Char → List (List Char)
  | [], _ => []
  | (unit, mark) :: units, cs =>
    match part? unit cs with
    | some (digits, rest) => (digits ++ [mark]) :: parts units rest
    | none => parts units cs

/-- The units of a time: hours, minutes and seconds, as they are read and written. -/
def units : List (Char × Char) := [('H', 'h'), ('M', 'm'), ('S', 's')]

/-- The time of a duration in words, or the text itself. -/
def format (s : String) : String :=
  match behindMark? s.toList with
  | none => s
  | some rest =>
    match parts units rest with
    | [] => s
    | ps => " ".intercalate (ps.map String.ofList)

end Duration

/-- The transformed text. -/
def TextTransform.apply : TextTransform → String → String
  | .duration, s => Duration.format s
  | .uppercase, s => Text.upper s
  | .capitalize, s => Text.capitalize s
  | .unknown, s => s

end Livery
