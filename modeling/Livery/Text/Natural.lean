import Livery.Text.Casing

/-!
# Natural order

`Natural.compare` orders texts the way people order versions: runs of digits by their value and all
other characters one by one, without regard to case, so that `1.9` comes before `1.10` and `v2`
before `V10`. A text is cut into its parts first (`Natural.parts`), and the order is the
lexicographic one on parts.
-/

namespace Livery.Natural

/-- A part of a text in natural order. -/
inductive Part
  /-- A run of decimal digits. -/
  | number (digits : List Char)
  /-- Any other character, in lower case. -/
  | letter (lower : List Char)
deriving DecidableEq

/-- The parts of a text; digits that follow each other form one part. -/
def parts : List Char → List Part
  | [] => []
  | c :: rest =>
    if c.isDigit then
      match parts rest with
      | .number digits :: more => .number (c :: digits) :: more
      | more => .number [c] :: more
    else .letter (Text.lowerChar c) :: parts rest

namespace Part

/-- A part without the zeros in front of a number. -/
def significant : Part → Part
  | .number digits => .number (digits.dropWhile (· = '0'))
  | p => p

/-- Compares two parts without leading zeros; all numbers stand where the digit `0` stands. -/
def compareSignificant : Part → Part → Ordering
  | .number a, .number b => (Ord.compare a.length b.length).then (Ord.compare a b)
  | .number _, .letter b => Ord.compare ['0'] b
  | .letter a, .number _ => Ord.compare a ['0']
  | .letter a, .letter b => Ord.compare a b

end Part

/-- The parts of a text as they are compared. -/
def key (s : String) : List Part := (parts s.toList).map Part.significant

/-- Compares two texts. -/
def compare (s t : String) : Ordering := List.compareLex Part.compareSignificant (key s) (key t)

/-- Whether the first text does not come behind the second. -/
def le (s t : String) : Bool := compare s t != .gt

end Livery.Natural
