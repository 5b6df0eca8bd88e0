import Livery.Decimal.Shortest

/-!
# Number texts

A `Notation` record fixes how a double precision number is written: between which decimal exponents
it is written positionally, whether whole numbers keep a fraction, and how an exponent looks. Three
notations occur in this library: `Notation.json` for values, `Notation.plain` for running text and
attributes, and `Notation.debug` for inspection. `plainNumber` is the text of a number in content.
-/

namespace Livery

/-- How a number is written. -/
structure Notation where
  /-- The exponents of the leading digit that are written positionally; `none` stands for all. -/
  positional : Option (Int × Int)
  /-- Whether a whole number is written with the fraction `.0` in positional notation. -/
  keepsFraction : Bool
  /-- Whether a positive exponent carries a plus sign. -/
  signsExponent : Bool
  /-- Which of two equally near shortest decimals is written. -/
  tie : Decimal.Tie

namespace Notation

/-- JSON values: positional from `0.00001` to below `10 ^ 16`, and `1.5e+21` beyond. -/
def json : Notation := ⟨some (-5, 15), true, true, .even⟩

/-- Running text: never an exponent, and no fraction on whole numbers. -/
def plain : Notation := ⟨none, false, false, .up⟩

/-- Inspection: positional from `0.0001` to below `10 ^ 16`, and `1e21` beyond. -/
def debug : Notation := ⟨some (-4, 15), true, false, .up⟩

/-- `n` zeros. -/
def zeros (n : Nat) : String := "".pushn '0' n

/-- A decimal in positional notation. -/
def positionalText (keepsFraction : Bool) (d : Decimal) : String :=
  let ds := Nat.repr d.digits
  if 0 ≤ d.exponent then
    ds ++ zeros d.exponent.toNat ++ if keepsFraction then ".0" else ""
  else
    let places := (-d.exponent).toNat
    let cs := ds.toList
    if places < cs.length then
      String.ofList (cs.take (cs.length - places)) ++ "." ++
        String.ofList (cs.drop (cs.length - places))
    else "0." ++ zeros (places - cs.length) ++ ds

/-- A decimal in scientific notation, `k` being the exponent of its leading digit. -/
def scientificText (signsExponent : Bool) (d : Decimal) (k : Int) : String :=
  let cs := (Nat.repr d.digits).toList
  let mantissa := match cs with
    | [] => ""
    | [c] => String.singleton c
    | c :: rest => String.singleton c ++ "." ++ String.ofList rest
  let sign := if k < 0 then "-" else if signsExponent then "+" else ""
  mantissa ++ "e" ++ sign ++ Nat.repr k.natAbs

/-- The text of a number. -/
def render (n : Notation) (x : Double) : String :=
  if x.isNaN then "NaN"
  else
    let sign := if x.negative then "-" else ""
    if !x.isFinite then sign ++ "inf"
    else
      let d := Decimal.shortest n.tie x
      let k : Int := (Double.digitCount d.digits : Int) - 1 + d.exponent
      let positional := match n.positional with
        | none => true
        | some (low, high) => x.isZero ∨ (low ≤ k ∧ k ≤ high)
      sign ++ if positional then positionalText n.keepsFraction d
        else scientificText n.signsExponent d k

end Notation

/-- The numbers below this one are written as integers if they are whole. -/
def wholeLimit : Nat := Nat.pow 10 15

/--
The text of a number in content: a whole number below `10 ^ 15` is an integer, so both zeros are
`0`, and any other number is written in full.
-/
def plainNumber (x : Double) : String :=
  match x.wholePart? with
  | some n =>
    if n < wholeLimit then (if x.negative ∧ n ≠ 0 then "-" else "") ++ Nat.repr n
    else Notation.plain.render x
  | none => Notation.plain.render x

end Livery
