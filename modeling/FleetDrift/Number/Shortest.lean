import FleetDrift.Number.Decimal

/-!
# Shortest decimals

The decimal with the fewest digits that reads back as a given number. For each count of digits the
candidates are the value's two neighbours on that decimal grid; of two that read back the nearer is
taken, and an exact tie is left to the caller.
-/

namespace FleetDrift.Number

inductive Tie where
  | up
  | even
  deriving DecidableEq, Repr

def Decimal.strip : Nat → Decimal → Decimal
  | 0, d => d
  | steps + 1, d =>
    if d.digits ≠ 0 ∧ d.digits % 10 = 0 then strip steps ⟨d.digits / 10, d.exponent + 1⟩ else d

namespace Shortest

/-- `num / den` as a value, with the greatest `e` such that `10 ^ e` does not exceed it: counts down
from an upper bound. -/
def leadingExponent : Nat → Nat → Nat → Int → Int
  | 0, _, _, e => e
  | steps + 1, num, den, e =>
    if 0 ≤ e then
      if den * Nat.pow 10 e.toNat ≤ num then e else leadingExponent steps num den (e - 1)
    else
      if den ≤ num * Nat.pow 10 (-e).toNat then e else leadingExponent steps num den (e - 1)

/-- An upper bound of the leading exponent of `num / den`, at most two above it. -/
def exponentBound (num den : Nat) : Int :=
  ((num.log2 : Int) - den.log2 + 1) * 30103 / 100000 + 1

def onGrid (num den : Nat) (step : Int) : Nat × Nat :=
  if 0 ≤ step then (num, den * Nat.pow 10 step.toNat) else (num * Nat.pow 10 (-step).toNat, den)

/-- The neighbour on the grid `10 ^ step` that reads back and is nearer, if one does. -/
def candidate? (tie : Tie) (x : Binary64) (num den : Nat) (step : Int) : Option Decimal :=
  let (n, d) := onGrid num den step
  let low : Decimal := ⟨n / d, step⟩
  let high : Decimal := ⟨n / d + 1, step⟩
  let reads (c : Decimal) : Bool := c.nearest x.negative = x
  let r := 2 * (n % d)
  let lowFirst := r < d || (r = d && tie = .even && n / d % 2 = 0)
  let (first, second) := if lowFirst then (low, high) else (high, low)
  if reads first then some first else if reads second then some second else none

def search (tie : Tie) (x : Binary64) (num den : Nat) (lead : Int) : Nat → Nat → Option Decimal
  | 0, _ => none
  | steps + 1, count =>
    match candidate? tie x num den (lead + 1 - count) with
    | some d => some (d.strip 20)
    | none => search tie x num den lead steps (count + 1)

end Shortest

/-- Every digit of a finite number: a binary fraction of `n` places has `n` decimal places. -/
def Binary64.exactDecimal (x : Binary64) : Decimal := ⟨x.units * Nat.pow 5 1074, -1074⟩

def Binary64.shortest (tie : Tie) (x : Binary64) : Decimal :=
  if x.isZero then ⟨0, 0⟩
  else
    let num := x.units
    let den := Binary64.unitsPerOne
    let lead := Shortest.leadingExponent 6 num den (Shortest.exponentBound num den)
    (Shortest.search tie x num den lead 17 1).getD x.exactDecimal

end FleetDrift.Number
