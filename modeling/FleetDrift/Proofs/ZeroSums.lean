import FleetDrift.Proofs.CanonicalText

/-!
# Scores and the two zeros

A sum does not depend on the signs of the zeros in it, but for the sign of a zero sum: that is
negative exactly when every number in it is the negative zero.
-/

namespace FleetDrift

open Number (Binary64)

namespace Number.Binary64

variable {x x' y y' : Binary64}

def IsNegativeZero (x : Binary64) : Prop := x.negative = true ∧ x.magnitude = 0

instance (x : Binary64) : Decidable x.IsNegativeZero := inferInstanceAs (Decidable (_ ∧ _))

theorem eq_of_foldZero (h : x.foldZero = y.foldZero)
    (hn : x.IsNegativeZero ↔ y.IsNegativeZero) : x = y := by
  rcases foldZero_eq_iff.mp h with rfl | ⟨hx, hy⟩
  · rfl
  · obtain ⟨sx, mx, lx⟩ := x
    obtain ⟨sy, my, ly⟩ := y
    cases hx
    cases hy
    have hsign : sx = true ↔ sy = true := by simpa [IsNegativeZero] using hn
    rw [Bool.eq_iff_iff.mpr hsign]

theorem units_zero (h : x.magnitude = 0) : x.units = 0 := by
  rw [units, h]
  decide

theorem signedUnits_zero (h : x.magnitude = 0) : x.signedUnits = 0 := by
  simp [signedUnits, units_zero h]

/-- A sum that is not zero does not round to zero. -/
theorem nearest_magnitude_ne_zero (negative : Bool) {n : Nat} (h : n ≠ 0) :
    (nearest negative n 1).magnitude ≠ 0 := by
  have hone : unitsOf 1 = 1 := unitsOf_of_lt (by decide)
  have hle : 1 ≤ nearestMagnitude n 1 :=
    le_nearestMagnitude Nat.one_pos (by decide) (by rw [hone]; omega)
  exact Nat.one_le_iff_ne_zero.mp hle

theorem magnitude_ne_zero_of_not_finite (h : ¬ x.isFinite = true) : x.magnitude ≠ 0 := by
  intro hz
  exact h (isFinite_iff.mpr (by rw [hz]; decide))

theorem isFinite_of_zero (h : x.magnitude = 0) : x.isFinite = true := by
  by_contra hno
  exact magnitude_ne_zero_of_not_finite hno h

theorem isNaN_of_finite (h : x.isFinite = true) : x.isNaN = false := by
  have hlt := isFinite_iff.mp h
  rw [isNaN, decide_eq_false_iff_not]
  omega

theorem add_of_finite (hx : x.isFinite) (hy : y.isFinite) :
    x.add y =
      if x.signedUnits + y.signedUnits = 0 then ⟨x.negative && y.negative, 0, by decide⟩
      else
        nearest (x.signedUnits + y.signedUnits < 0) (x.signedUnits + y.signedUnits).natAbs 1 := by
  simp only [add, isNaN_of_finite hx, isNaN_of_finite hy, hx, hy, Bool.false_eq_true, if_false,
    Bool.not_true]

theorem add_of_not_finite_left (hx : ¬ x.isFinite = true) (hy : y.isFinite) : x.add y = x := by
  simp [add, isNaN_of_finite hy, hx, hy]

theorem add_of_not_finite_right (hx : x.isFinite) (hy : ¬ y.isFinite = true) : x.add y = y := by
  simp [add, isNaN_of_finite hx, hx, hy]

/-- Summands that differ in the sign of a zero give sums that differ at most so. -/
theorem foldZero_add (hx : x.foldZero = x'.foldZero) (hy : y.foldZero = y'.foldZero) :
    (x.add y).foldZero = (x'.add y').foldZero := by
  have hfinite : x.isFinite → y.isFinite → x'.isFinite → y'.isFinite →
      x.signedUnits = x'.signedUnits → y.signedUnits = y'.signedUnits →
      (x.add y).foldZero = (x'.add y').foldZero := by
    intro fx fy fx' fy' ux uy
    rw [add_of_finite fx fy, add_of_finite fx' fy', ux, uy]
    split_ifs
    · exact foldZero_eq_iff.mpr (.inr ⟨rfl, rfl⟩)
    · rfl
  rcases foldZero_eq_iff.mp hx with rfl | ⟨zx, zx'⟩
  · rcases foldZero_eq_iff.mp hy with rfl | ⟨zy, zy'⟩
    · rfl
    · by_cases fx : x.isFinite = true
      · exact hfinite fx (isFinite_of_zero zy) fx (isFinite_of_zero zy') rfl
          ((signedUnits_zero zy).trans (signedUnits_zero zy').symm)
      · rw [add_of_not_finite_left fx (isFinite_of_zero zy),
          add_of_not_finite_left fx (isFinite_of_zero zy')]
  · have ux := (signedUnits_zero zx).trans (signedUnits_zero zx').symm
    rcases foldZero_eq_iff.mp hy with rfl | ⟨zy, zy'⟩
    · by_cases fy : y.isFinite = true
      · exact hfinite (isFinite_of_zero zx) fy (isFinite_of_zero zx') fy ux rfl
      · rw [add_of_not_finite_right (isFinite_of_zero zx) fy,
          add_of_not_finite_right (isFinite_of_zero zx') fy]
    · exact hfinite (isFinite_of_zero zx) (isFinite_of_zero zy) (isFinite_of_zero zx')
        (isFinite_of_zero zy') ux ((signedUnits_zero zy).trans (signedUnits_zero zy').symm)

theorem zero_of_negative_sum (hx : x.negative = true) (hy : y.negative = true)
    (h : x.signedUnits + y.signedUnits = 0) : x.magnitude = 0 ∧ y.magnitude = 0 := by
  rw [signedUnits, signedUnits, if_pos hx, if_pos hy] at h
  constructor
  · by_contra hz
    have hpos : 0 < x.units := unitsOf_pos hz
    omega
  · by_contra hz
    have hpos : 0 < y.units := unitsOf_pos hz
    omega

theorem add_not_finite (h : ¬ (x.isFinite = true ∧ y.isFinite = true)) :
    (x.add y).magnitude ≠ 0 := by
  by_cases hx : x.isFinite = true
  · have hy : ¬ y.isFinite = true := fun hy => h ⟨hx, hy⟩
    rw [add_of_not_finite_right hx hy]
    exact magnitude_ne_zero_of_not_finite hy
  · have hxz := magnitude_ne_zero_of_not_finite hx
    have hnan : (nan true).magnitude ≠ 0 := by decide
    simp only [add, hx, Bool.not_false, if_true]
    split_ifs with _ hyn
    · exact hxz
    · exact magnitude_ne_zero_of_not_finite fun hy => absurd hyn (by rw [isNaN_of_finite hy]; simp)
    · exact hnan
    · exact hxz

theorem isNegativeZero_add : (x.add y).IsNegativeZero ↔ x.IsNegativeZero ∧ y.IsNegativeZero := by
  by_cases hfinite : x.isFinite = true ∧ y.isFinite = true
  · obtain ⟨hx, hy⟩ := hfinite
    rw [add_of_finite hx hy]
    split_ifs with hs
    · constructor
      · rintro ⟨hneg, -⟩
        obtain ⟨nx, ny⟩ := Bool.and_eq_true_iff.mp hneg
        obtain ⟨zx, zy⟩ := zero_of_negative_sum nx ny hs
        exact ⟨⟨nx, zx⟩, ⟨ny, zy⟩⟩
      · rintro ⟨⟨nx, -⟩, ⟨ny, -⟩⟩
        exact ⟨Bool.and_eq_true_iff.mpr ⟨nx, ny⟩, rfl⟩
    · constructor
      · rintro ⟨-, hz⟩
        exact absurd hz (nearest_magnitude_ne_zero _ (Int.natAbs_ne_zero.mpr hs))
      · rintro ⟨⟨-, zx⟩, ⟨-, zy⟩⟩
        exact absurd (by rw [signedUnits_zero zx, signedUnits_zero zy]; rfl) hs
  · constructor
    · rintro ⟨-, hz⟩
      exact absurd hz (add_not_finite hfinite)
    · rintro ⟨⟨-, zx⟩, ⟨-, zy⟩⟩
      exact absurd ⟨isFinite_of_zero zx, isFinite_of_zero zy⟩ hfinite

end Number.Binary64

namespace Entry

variable {e f : Entry}

/-- Expiry, quota and address limit are all the negative zero. -/
def IsNegativeZero (e : Entry) : Prop :=
  (e.expiryTime.IsNegativeZero ∧ e.totalGB.IsNegativeZero) ∧ e.limitIp.IsNegativeZero

instance (e : Entry) : Decidable e.IsNegativeZero := inferInstanceAs (Decidable ((_ ∧ _) ∧ _))

theorem isNegativeZero_score : e.score.magnitude.IsNegativeZero ↔ e.IsNegativeZero := by
  rw [score, Binary64.isNegativeZero_add, Binary64.isNegativeZero_add]
  rfl

def scoredFields : List Field := [.enable, .expiryTime, .totalGB, .limitIp]

/-- The entries agree, as fields are compared, on all that is scored. -/
def ScoredAlike (e f : Entry) : Prop :=
  ∀ field ∈ scoredFields, FieldValue.Same (field.value e) (field.value f)

instance (e f : Entry) : Decidable (ScoredAlike e f) :=
  inferInstanceAs (Decidable (∀ field ∈ scoredFields, _))

theorem scoredAlike_iff : e.ScoredAlike f ↔ e.isEnabled = f.isEnabled ∧
    e.expiryTime.foldZero = f.expiryTime.foldZero ∧ e.totalGB.foldZero = f.totalGB.foldZero ∧
      e.limitIp.foldZero = f.limitIp.foldZero := by
  simp [ScoredAlike, scoredFields, FieldValue.Same, FieldValue.key, Field.value]

theorem ScoredAlike.enabled (h : e.ScoredAlike f) : e.score.enabled = f.score.enabled :=
  (scoredAlike_iff.mp h).1

theorem ScoredAlike.foldZero_score (h : e.ScoredAlike f) :
    e.score.magnitude.foldZero = f.score.magnitude.foldZero := by
  obtain ⟨-, hexpiryTime, htotalGB, hlimitIp⟩ := scoredAlike_iff.mp h
  exact Binary64.foldZero_add (Binary64.foldZero_add hexpiryTime htotalGB) hlimitIp

/-- Entries that agree score the same, if not for a sum of negative zeros. -/
theorem ScoredAlike.score_eq_iff (h : e.ScoredAlike f) :
    e.score = f.score ↔ (e.IsNegativeZero ↔ f.IsNegativeZero) := by
  constructor
  · intro hscore
    rw [← isNegativeZero_score, ← isNegativeZero_score, hscore]
  · intro hn
    have hmagnitude : e.score.magnitude = f.score.magnitude :=
      Binary64.eq_of_foldZero h.foldZero_score
        (isNegativeZero_score.trans (hn.trans isNegativeZero_score.symm))
    calc e.score = ⟨e.score.enabled, e.score.magnitude⟩ := rfl
      _ = ⟨f.score.enabled, f.score.magnitude⟩ := by rw [h.enabled, hmagnitude]
      _ = f.score := rfl

theorem Same.scoredAlike (h : e.Same f) : e.ScoredAlike f :=
  scoredAlike_iff.mpr
    ⟨by simp only [isEnabled, h.enable], h.expiryTime, h.totalGB, h.limitIp⟩

theorem Same.score_eq (h : e.Same f) (hn : e.IsNegativeZero ↔ f.IsNegativeZero) :
    e.score = f.score :=
  h.scoredAlike.score_eq_iff.mpr hn

end Entry

end FleetDrift
