/-!
# Double precision numbers

A `Double` is the 64-bit pattern of a binary floating-point number. Its value is read off the
pattern exactly: `±mantissa · 2 ^ exponent`, with `Nat` and `Int` arithmetic only, so every
comparison, test and rounding below is a computation on whole numbers.

* `Double.wholePart?` finds the integer that a number is, if it is one;
* `Double.ofDecimal` gives the number nearest to `m · 10 ^ e`, ties to the even pattern;
* `Double.mul` and `Double.div` give the numbers nearest to a product and to a quotient.
-/

namespace Livery

/-- A double precision number, as its bit pattern. -/
structure Double where
  /-- Sign bit, eleven exponent bits and fifty-two fraction bits. -/
  bits : UInt64
deriving DecidableEq

namespace Double

instance : Inhabited Double := ⟨⟨0⟩⟩

/-- The pattern with the sign bit left out. -/
def magnitude (x : Double) : Nat := x.bits.toNat % Nat.pow 2 63

/-- Whether the sign bit is set. -/
def negative (x : Double) : Bool := Nat.pow 2 63 ≤ x.bits.toNat

/-- The exponent bits. -/
def biased (x : Double) : Nat := x.magnitude / Nat.pow 2 52

/-- The fraction bits. -/
def fraction (x : Double) : Nat := x.magnitude % Nat.pow 2 52

/-- The pattern of the infinities, without sign. -/
def infinite : Nat := 2047 * Nat.pow 2 52

/-- Whether the number is neither infinite nor undefined. -/
def isFinite (x : Double) : Bool := x.magnitude < infinite

/-- Whether the pattern stands for no number. -/
def isNaN (x : Double) : Bool := infinite < x.magnitude

/-- Whether the number is one of the two zeros. -/
def isZero (x : Double) : Bool := x.magnitude = 0

/-- The whole number that the power of two of `exponent` scales. -/
def mantissa (x : Double) : Nat :=
  if x.biased = 0 then x.fraction else x.fraction + Nat.pow 2 52

/-- The power of two that scales `mantissa`. -/
def exponent (x : Double) : Int := ((if x.biased = 0 then 1 else x.biased : Nat) : Int) - 1075

/-- Numeric equality: the two zeros are equal, and an undefined number equals nothing. -/
def same (x y : Double) : Bool :=
  !x.isNaN && !y.isNaN && (x.bits = y.bits || (x.isZero && y.isZero))

/-- The absolute value, if the number is finite and has no fractional part. -/
def wholePart? (x : Double) : Option Nat :=
  if !x.isFinite then none
  else if 0 ≤ x.exponent then some (x.mantissa * Nat.pow 2 x.exponent.toNat)
  else
    let d := Nat.pow 2 (-x.exponent).toNat
    if x.mantissa % d = 0 then some (x.mantissa / d) else none

/-- The number with this sign and pattern. -/
def ofMagnitude (negative : Bool) (pattern : Nat) : Double :=
  ⟨UInt64.ofNat (pattern + if negative then Nat.pow 2 63 else 0)⟩

/-- The quotient rounded to the nearest whole number, a half to the even one. -/
def roundDiv (num den : Nat) : Nat :=
  let q := num / den
  let r := num % den
  if den < 2 * r ∨ (2 * r = den ∧ q % 2 = 1) then q + 1 else q

/--
The pattern nearest to the fraction `num / den`. The scale is chosen so that the quotient has
fifty-three bits, or fewer below the smallest normal number. A quotient that rounds up to
fifty-four bits carries into the exponent bits, which is the right pattern again.
-/
def roundRatio (num den : Nat) : Nat :=
  if num = 0 then 0
  else
    let guess : Int := (num.log2 : Int) - den.log2 - 53
    let scaled (q : Int) : Nat × Nat :=
      if 0 ≤ q then (num, den * Nat.pow 2 q.toNat) else (num * Nat.pow 2 (-q).toNat, den)
    let exact := if (scaled guess).1 / (scaled guess).2 < Nat.pow 2 53 then guess else guess + 1
    let q := max exact (-1074)
    let pattern := (q + 1074).toNat * Nat.pow 2 52 + roundDiv (scaled q).1 (scaled q).2
    min pattern infinite

/-- The pattern nearest to `num / den · 2 ^ e`. -/
def roundScaled (num den : Nat) (e : Int) : Nat :=
  if 0 ≤ e then roundRatio (num * Nat.pow 2 e.toNat) den
  else roundRatio num (den * Nat.pow 2 (-e).toNat)

/-- The product of two finite numbers. -/
def mul (x y : Double) : Double :=
  ofMagnitude (x.negative != y.negative)
    (roundScaled (x.mantissa * y.mantissa) 1 (x.exponent + y.exponent))

/-- The quotient of two finite numbers, of which the second is not zero. -/
def div (x y : Double) : Double :=
  ofMagnitude (x.negative != y.negative)
    (roundScaled x.mantissa y.mantissa (x.exponent - y.exponent))

/-- The number nearest to a natural number. -/
def ofNat (n : Nat) : Double := ofMagnitude false (roundRatio n 1)

/-- The number of decimal digits of `n`. -/
def digitCount (n : Nat) : Nat := (Nat.toDigits 10 n).length

/--
The number nearest to `±m · 10 ^ e`. Values of more than 310 digits in front of the point are
infinite, and values with more than 330 zeros behind it are zero, whatever their digits are.
-/
def ofDecimal (negative : Bool) (m : Nat) (e : Int) : Double :=
  let size : Int := digitCount m + e
  let pattern :=
    if m = 0 then 0
    else if 310 < size then infinite
    else if size < -330 then 0
    else if 0 ≤ e then roundRatio (m * Nat.pow 10 e.toNat) 1
    else roundRatio m (Nat.pow 10 (-e).toNat)
  ofMagnitude negative pattern

/-- The number nearest to an integer. -/
def ofInt (n : Int) : Double := ofDecimal (n < 0) n.natAbs 0

end Double

end Livery
