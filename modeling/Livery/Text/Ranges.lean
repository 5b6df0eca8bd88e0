/-!
# Character classes as ranges

A class of characters is a list of ranges of code points in rising order, `Ranges`. `Ranges.has`
looks a character up and stops at the first range that begins behind it.
-/

namespace Livery.Text

/-- Ranges of code points, each with its first and its last member, in rising order. -/
abbrev Ranges := List (Nat × Nat)

/-- Whether a code point lies in one of the ranges. -/
def Ranges.hasCode : Ranges → Nat → Bool
  | [], _ => false
  | (first, last) :: rest, c => first ≤ c && (c ≤ last || Ranges.hasCode rest c)

/-- Whether a character belongs to the class. -/
def Ranges.has (r : Ranges) (c : Char) : Bool := r.hasCode c.toNat

end Livery.Text
