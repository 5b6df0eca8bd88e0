import Livery.Double

/-!
# Shortest decimals

Among the decimals that round to a given double precision number, `Decimal.shortest` picks one with
the fewest digits, and of those the nearest to the number. All comparisons are exact.

The decimals with `n` digits near a number `v` form a grid of step `10 ^ g`. If any point of the
grid rounds to the number, then so does one of the two neighbours of `v` on it, so testing the
neighbours for `n = 1, 2, …` finds the smallest `n`. Seventeen digits always suffice.
-/

namespace Livery

/-- The decimal `digits · 10 ^ exponent`. -/
structure Decimal where
  digits : Nat
  exponent : Int
deriving DecidableEq

namespace Decimal

/-- Which of two equally near neighbours is taken. -/
inductive Tie
  /-- The neighbour whose last digit is even. -/
  | even
  /-- The larger neighbour. -/
  | up
deriving DecidableEq

/-- The decimal without its trailing zeros; `fuel` bounds their number. -/
def trim : Nat → Decimal → Decimal
  | 0, d => d
  | fuel + 1, d =>
    if d.digits ≠ 0 ∧ d.digits % 10 = 0 then trim fuel ⟨d.digits / 10, d.exponent + 1⟩ else d

/--
A positive number together with the interval of the values that round to it, as numerators over one
denominator: the number itself is `value / den`.
-/
structure Interval where
  low : Nat
  value : Nat
  high : Nat
  den : Nat
  /-- Whether the ends of the interval round to the number, too. -/
  closed : Bool

/--
The interval of a finite number other than zero. The gap below a power of two is half as wide as
the gap above it, and the ends round to the number exactly if its mantissa is even.
-/
def Interval.ofDouble (x : Double) : Interval :=
  let m := 4 * x.mantissa
  let e := x.exponent - 2
  let below := if x.fraction = 0 ∧ 1 < x.biased then 1 else 2
  let up := if 0 ≤ e then Nat.pow 2 e.toNat else 1
  { low := (m - below) * up
    value := m * up
    high := (m + 2) * up
    den := if 0 ≤ e then 1 else Nat.pow 2 (-e).toNat
    closed := x.mantissa % 2 = 0 }

/-- The exponent of the leading digit of `num / den`. -/
def leading (num den : Nat) : Int :=
  if den ≤ num then (Double.digitCount (num / den) : Int) - 1
  else
    let j := Double.digitCount den - Double.digitCount num
    if den ≤ num * Nat.pow 10 j then -(j : Int) else -(j : Int) - 1

namespace Interval

/-- The factors that compare `c · 10 ^ g` with numerators over `den`. -/
def scale (g : Int) : Nat × Nat := (Nat.pow 10 g.toNat, Nat.pow 10 (-g).toNat)

/-- Whether `c · 10 ^ g` rounds to the number. -/
def holds (i : Interval) (c : Nat) (g : Int) : Bool :=
  let (p, q) := scale g
  let v := c * p * i.den
  if i.closed then i.low * q ≤ v ∧ v ≤ i.high * q else i.low * q < v ∧ v < i.high * q

/-- The decimal on the grid of step `10 ^ g` that rounds to the number, if there is one. -/
def onGrid? (i : Interval) (tie : Tie) (g : Int) : Option Decimal :=
  let (p, q) := scale g
  let v := i.value * q
  let step := p * i.den
  let c := v / step
  match i.holds c g, i.holds (c + 1) g with
  | true, true =>
    let below := v - c * step
    let above := (c + 1) * step - v
    let lower := below < above ∨ (below = above ∧ tie = .even ∧ c % 2 = 0)
    some ⟨if lower then c else c + 1, g⟩
  | true, false => some ⟨c, g⟩
  | false, true => some ⟨c + 1, g⟩
  | false, false => none

end Interval

/-- The shortest decimal that rounds to a finite number, without trailing zeros. -/
def shortest (tie : Tie) (x : Double) : Decimal :=
  if x.isZero then ⟨0, 0⟩
  else
    let i := Interval.ofDouble x
    let k := leading i.value i.den
    match (List.range 17).findSome? fun (n : Nat) => i.onGrid? tie (k - n) with
    | some d => trim 20 d
    | none => ⟨0, 0⟩

end Decimal

end Livery
