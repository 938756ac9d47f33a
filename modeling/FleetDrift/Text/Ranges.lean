/-!
# Character ranges

A character property is stored as ascending, disjoint ranges of code points.
-/

namespace FleetDrift.Text

/-- First and last code point of each range, in ascending order. -/
abbrev CharRanges := List (Nat × Nat)

/-- Membership, given up at the first range that starts beyond the code point. -/
def CharRanges.containsCode : CharRanges → Nat → Bool
  | [], _ => false
  | (first, last) :: rest, n => first ≤ n && (n ≤ last || containsCode rest n)

def CharRanges.contains (ranges : CharRanges) (c : Char) : Bool :=
  ranges.containsCode c.toNat

end FleetDrift.Text
