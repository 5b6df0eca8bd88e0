import Livery.Json.Basic
import Livery.Text.Numeral

/-!
# TOML scalars without quotes

`Toml.bare?` is the value of a word: a truth value, an integer of 64 bits, or a double precision
number. Underscores may stand between digits. A number that is infinite or undefined becomes `null`,
but a positive literal that is too large is refused.
-/

namespace Livery.Toml

open Text (basedValue? digitsValue)

/-- Digits, with underscores between some of them taken out. -/
def grouped? (isDigit : Char → Bool) : List Char → Option (List Char)
  | [] => none
  | [c] => if isDigit c then some [c] else none
  | c :: '_' :: rest => if isDigit c then (grouped? isDigit rest).map (c :: ·) else none
  | c :: rest => if isDigit c then (grouped? isDigit rest).map (c :: ·) else none

/-- The digits of a decimal integer, which has no zeros in front. -/
def wholeDigits? (cs : List Char) : Option (List Char) :=
  (grouped? Char.isDigit cs).filter fun ds => cs.length = 1 || ds.head? ≠ some '0'

/-- The bound of integers. -/
def integerBound : Nat := Nat.pow 2 63

/-- An integer within 64 bits. -/
def integer? (negative : Bool) (n : Nat) : Option Json :=
  if negative then if n ≤ integerBound then some (.num (.int (-n))) else none
  else if n < integerBound then some (.num (.int n)) else none

/-- An integer in a base other than ten. -/
def based? (base : Nat) (cs : List Char) : Option Json :=
  ((grouped? (fun c => (Text.digitValue? base c).isSome) cs).bind (basedValue? base)).bind
    (integer? false)

/-- The exponent at the end of a number, zero if there is none. -/
def exponent? : List Char → Option Int
  | [] => some 0
  | c :: rest =>
    if c = 'e' ∨ c = 'E' then
      match rest with
      | '-' :: ds => (grouped? Char.isDigit ds).map fun ds => -(digitsValue ds : Int)
      | '+' :: ds => (grouped? Char.isDigit ds).map fun ds => (digitsValue ds : Int)
      | ds => (grouped? Char.isDigit ds).map fun ds => (digitsValue ds : Int)
    else none

/-- The value of a number in double precision. -/
def double? (negative : Bool) (m : Nat) (e : Int) : Option Json :=
  let x := Double.ofDecimal negative m e
  if x.isFinite then some (.num (.float x)) else if negative then some .null else none

/-- A decimal number behind its sign. -/
def decimal? (negative : Bool) (cs : List Char) : Option Json :=
  let isPart (c : Char) : Bool := c.isDigit || c = '_'
  (wholeDigits? (cs.takeWhile isPart)).bind fun whole =>
    match cs.dropWhile isPart with
    | [] => integer? negative (digitsValue whole)
    | '.' :: rest =>
      (grouped? Char.isDigit (rest.takeWhile isPart)).bind fun fraction =>
        (exponent? (rest.dropWhile isPart)).bind fun e =>
          double? negative (digitsValue (whole ++ fraction)) (e - fraction.length)
    | rest => (exponent? rest).bind fun e => double? negative (digitsValue whole) e

/-- A number behind its sign, or one of the two that are not finite. -/
def signed? (negative : Bool) (cs : List Char) : Option Json :=
  if cs = ['i', 'n', 'f'] ∨ cs = ['n', 'a', 'n'] then some .null else decimal? negative cs

/-- The value of a word. -/
def bare? (cs : List Char) : Option Json :=
  match cs with
  | ['t', 'r', 'u', 'e'] => some (.bool true)
  | ['f', 'a', 'l', 's', 'e'] => some (.bool false)
  | '0' :: 'x' :: ds => based? 16 ds
  | '0' :: 'o' :: ds => based? 8 ds
  | '0' :: 'b' :: ds => based? 2 ds
  | '+' :: rest => signed? false rest
  | '-' :: rest => signed? true rest
  | cs => signed? false cs

end Livery.Toml
