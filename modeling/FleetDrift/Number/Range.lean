/-!
# The signed 64-bit range
-/

namespace FleetDrift.Number

def fitsInt64 (n : Int) : Bool :=
  decide (-0x8000000000000000 ≤ n ∧ n < 0x8000000000000000)

theorem fitsInt64_iff (n : Int) :
    fitsInt64 n = true ↔ -0x8000000000000000 ≤ n ∧ n < 0x8000000000000000 := by
  simp [fitsInt64]

end FleetDrift.Number
