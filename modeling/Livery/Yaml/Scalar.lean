import Livery.Json.Basic
import Livery.Text.Numeral

/-!
# YAML scalars without quotes

`Yaml.plainValue?` is the value of a text that stands without quotes: nothing, a truth value, a
number or else the text itself. Integers of more than 64 bits are refused up to 128 bits, and are
floating-point numbers beyond that.
-/

namespace Livery.Yaml

open Text (digitsValue basedValue? natural?)

/-- The texts that stand for nothing. -/
def nullTexts : List String := ["", "~", "null", "Null", "NULL"]

/-- The texts that stand for truth. -/
def trueTexts : List String := ["true", "True", "TRUE"]

/-- The texts that stand for falsehood. -/
def falseTexts : List String := ["false", "False", "FALSE"]

/-- The texts that stand for numbers that are not finite. -/
def notFinite : List String :=
  [".inf", ".Inf", ".INF", "+.inf", "+.Inf", "+.INF", "-.inf", "-.Inf", "-.INF", ".nan", ".NaN",
   ".NAN"]

/-- Whether a text has a sign at its start. -/
def isSigned (cs : List Char) : Bool := cs.head? = some '+' || cs.head? = some '-'

/-- Whether digits behind an optional sign have a zero in front, which makes them a text. -/
def isPadded (cs : List Char) : Bool :=
  let ds := if isSigned cs then cs.tail else cs
  1 < ds.length && ds.head? = some '0' && ds.all Char.isDigit

/-- The natural number that digits write, in base ten or behind the mark of another base. -/
def magnitude? (cs : List Char) : Option Nat :=
  match cs with
  | '0' :: 'x' :: ds => basedValue? 16 ds
  | '0' :: 'o' :: ds => basedValue? 8 ds
  | '0' :: 'b' :: ds => basedValue? 2 ds
  | cs => natural? cs

/-- The integer that a text writes. -/
def integer? (cs : List Char) : Option Int :=
  if isPadded cs then none
  else
    match cs with
    | '-' :: rest => (magnitude? rest).map fun n => -(n : Int)
    | '+' :: rest => (magnitude? rest).map fun n => (n : Int)
    | cs => (magnitude? cs).map fun n => (n : Int)

/-- The exponent at the end of a number, zero if there is none. -/
def exponent? : List Char → Option Int
  | [] => some 0
  | c :: rest =>
    if c = 'e' ∨ c = 'E' then
      match rest with
      | '-' :: ds => (natural? ds).map fun n => -(n : Int)
      | '+' :: ds => (natural? ds).map fun n => (n : Int)
      | ds => (natural? ds).map fun n => (n : Int)
    else none

/-- The finite number that digits with an optional fraction and exponent write. -/
def fraction? (negative : Bool) (cs : List Char) : Option Double :=
  let (whole, rest) := Text.spanDigits cs
  let (part, rest) := match rest with
    | '.' :: rest => Text.spanDigits rest
    | rest => ([], rest)
  if whole.isEmpty ∧ part.isEmpty then none
  else
    (exponent? rest).bind fun e =>
      (some (Double.ofDecimal negative (digitsValue (whole ++ part)) (e - part.length))).filter
        Double.isFinite

/-- The finite number that a text writes. -/
def number? (cs : List Char) : Option Double :=
  if isPadded cs then none
  else
    match cs with
    | '-' :: rest => fraction? true rest
    | '+' :: rest => fraction? false rest
    | cs => fraction? false cs

/-- Whether an integer has at most `bits` bits, with a sign if it is negative. -/
def fits (bits : Nat) (n : Int) : Bool := -Int.pow 2 (bits - 1) ≤ n ∧ n < Int.pow 2 bits

/-- The value of a text without quotes that is no integer. -/
def otherValue (s : String) : Json :=
  if notFinite.contains s then .null
  else
    match number? s.toList with
    | some x => .num (.float x)
    | none => .str s

/-- The value of a text without quotes. -/
def plainValue? (s : String) : Option Json :=
  if nullTexts.contains s then some .null
  else if trueTexts.contains s then some (.bool true)
  else if falseTexts.contains s then some (.bool false)
  else
    match integer? s.toList with
    | some n =>
      if fits 64 n then some (.num (.int n)) else if fits 128 n then none else some (otherValue s)
    | none => some (otherValue s)

end Livery.Yaml
