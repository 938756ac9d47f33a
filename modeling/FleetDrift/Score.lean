import FleetDrift.Entry.Basic

/-!
# Ranking copies

Which of several copies is the best source for the others: an enabled one before a disabled one,
then the one with the greatest sum of expiry, quota and address limit.
-/

namespace FleetDrift

open Number (Binary64)

structure Score where
  enabled : Bool
  magnitude : Binary64
  deriving DecidableEq, Repr

namespace Score

def compare (a b : Score) : Ordering :=
  (Ord.compare a.enabled b.enabled).then
    (Ord.compare a.magnitude.position b.magnitude.position)

def le (a b : Score) : Bool := (a.compare b).isLE

end Score

/-- The sum is rounded after each addition. -/
def Entry.score (e : Entry) : Score :=
  ⟨e.isEnabled, (e.expiryTime.add e.totalGB).add e.limitIp⟩

/-- Best first; of equal scores the earlier one first. -/
def rankBy {α : Type} (score : α → Score) (xs : List α) : List α :=
  xs.mergeSort fun x y => (score y).le (score x)

def rank (entries : List Entry) : List Entry := rankBy Entry.score entries

end FleetDrift
