import FleetDrift.Proofs.NumberText
import Mathlib.Data.List.TakeWhile

/-! # Whole numbers among the Binary64 numbers

Below `2 ^ 52` every whole number is a Binary64 number, and from there on no Binary64 number has a
fraction. So a whole number is rounded to a whole one, be it given as such or written as a text.
-/

namespace FleetDrift.Number

namespace Binary64

variable {k m n : Nat}

/-- With a name for the exponent nobody computes the power. -/
theorem unitsPerOne_eq {p : Nat} (hp : p = 1074) : unitsPerOne = 2 ^ p := by
  unfold unitsPerOne
  rw [← hp]
  rfl

theorem unitsOf_significand {e f : Nat} (hf : f < binade) :
    unitsOf (e * binade + (binade + f)) = (binade + f) * 2 ^ e := by
  have hge : ¬ e * binade + (binade + f) < binade := by omega
  have hsplit : e * binade + (binade + f) = f + binade * (e + 1) := by
    rw [Nat.mul_add_one, Nat.mul_comm binade e]
    omega
  have hmod : (e * binade + (binade + f)) % binade = f := by
    rw [hsplit, Nat.add_mul_mod_self_left, Nat.mod_eq_of_lt hf]
  have hdiv : (e * binade + (binade + f)) / binade = e + 1 := by
    rw [hsplit, Nat.add_mul_div_left _ _ (by decide), Nat.div_eq_of_lt hf, Nat.zero_add]
  rw [unitsOf, if_neg hge, hmod, hdiv]
  rfl

/-- A whole number below `2 ^ 52` is a Binary64 number. -/
theorem exists_unitsOf (hk : k < binade) :
    ∃ m < infinityMagnitude, unitsOf m = k * unitsPerOne := by
  by_cases hzero : k = 0
  · exact ⟨0, by decide, by rw [hzero, Nat.zero_mul]; rfl⟩
  · have hlog : k.log2 < 52 := (Nat.log2_lt hzero).mpr hk
    have hbinade : 2 ^ k.log2 * 2 ^ (52 - k.log2) = binade := by
      rw [← Nat.pow_add, Nat.add_sub_of_le hlog.le]
      rfl
    have hlow : binade ≤ k * 2 ^ (52 - k.log2) :=
      hbinade ▸ Nat.mul_le_mul_right _ (Nat.log2_self_le hzero)
    have hhigh : k * 2 ^ (52 - k.log2) < 2 * binade := by
      rw [← hbinade, ← Nat.mul_assoc, ← Nat.pow_succ']
      exact Nat.mul_lt_mul_of_pos_right Nat.lt_log2_self (Nat.pow_pos (by decide))
    obtain ⟨f, hf⟩ := Nat.exists_eq_add_of_le hlow
    refine ⟨(1022 + k.log2) * binade + (binade + f), ?_, ?_⟩
    · have hinf : infinityMagnitude = 2047 * binade := rfl
      have hstep : (1022 + k.log2) * binade ≤ 1074 * binade := Nat.mul_le_mul_right _ (by omega)
      omega
    · have hexp : 52 - k.log2 + (1022 + k.log2) = 1074 := by omega
      rw [unitsOf_significand (by omega), ← hf, Nat.mul_assoc, ← Nat.pow_add,
        unitsPerOne_eq hexp]

/-- The magnitude of `2 ^ 52`. -/
def leastWhole : Nat := 1075 * binade

theorem unitsOf_leastWhole : unitsOf leastWhole = binade * unitsPerOne := by decide +kernel

theorem unitsPerOne_dvd_unitsOf (h : leastWhole ≤ m) : unitsPerOne ∣ unitsOf m := by
  have hleast : leastWhole = 1075 * binade := rfl
  obtain ⟨e, f, hf, hm, hu⟩ := exists_exponent (m := m) (by omega)
  obtain ⟨p, hp⟩ : ∃ p, p = 1074 := ⟨_, rfl⟩
  have he : p ≤ e := by
    by_contra hno
    have hstep : e * binade ≤ 1073 * binade := Nat.mul_le_mul_right _ (by omega)
    omega
  rw [hu, unitsPerOne_eq hp]
  exact Nat.dvd_mul_left_of_dvd (Nat.pow_dvd_pow 2 he) _

/-- Without fractions a bound on the whole part is a bound on the number. -/
theorem unitsOf_le_iff (hn : binade ≤ n) :
    unitsOf m ≤ n * unitsPerOne ↔ unitsOf m / unitsPerOne ≤ n := by
  constructor
  · intro h
    exact Nat.div_le_of_le_mul (by rwa [Nat.mul_comm])
  · intro h
    by_cases hm : leastWhole ≤ m
    · rw [← Nat.div_mul_cancel (unitsPerOne_dvd_unitsOf hm)]
      exact Nat.mul_le_mul_right _ h
    · calc unitsOf m ≤ unitsOf leastWhole := unitsOf_mono (by decide) (Nat.le_of_not_le hm)
        _ = binade * unitsPerOne := unitsOf_leastWhole
        _ ≤ n * unitsPerOne := Nat.mul_le_mul_right _ hn

/-- The Binary64 number nearest to a whole number, which is a whole number too. -/
def nearestWhole (k : Nat) : Nat := unitsOf (nearestMagnitude (k * unitsPerOne) 1) / unitsPerOne

theorem unitsOf_nearestMagnitude_whole (k : Nat) :
    unitsOf (nearestMagnitude (k * unitsPerOne) 1) = nearestWhole k * unitsPerOne := by
  refine (Nat.div_mul_cancel ?_).symm
  by_cases hk : k < binade
  · obtain ⟨m, hm, hu⟩ := exists_unitsOf hk
    have hnear := nearestMagnitude_unitsOf hm.le Nat.one_pos
    rw [Nat.mul_one, hu] at hnear
    rw [hnear, hu]
    exact Nat.dvd_mul_left _ _
  · refine unitsPerOne_dvd_unitsOf (le_nearestMagnitude Nat.one_pos (by decide) ?_)
    rw [unitsOf_leastWhole, Nat.mul_one]
    exact Nat.mul_le_mul_right _ (Nat.le_of_not_lt hk)

theorem nearestWhole_mono (h : k ≤ n) : nearestWhole k ≤ nearestWhole n := by
  refine Nat.div_le_div_right (unitsOf_mono (Nat.min_le_right _ _) ?_)
  exact nearestMagnitude_mono Nat.one_pos (Nat.mul_le_mul_right _ h)

theorem nearestWhole_of_unitsOf (hm : m ≤ infinityMagnitude) (h : unitsOf m = k * unitsPerOne) :
    nearestWhole k = k := by
  have hpos : 0 < unitsPerOne := by decide +kernel
  have hnear := nearestMagnitude_unitsOf hm Nat.one_pos
  rw [Nat.mul_one, h] at hnear
  rw [nearestWhole, hnear, h, Nat.mul_div_cancel _ hpos]

theorem natAbs_truncate_ofInt (n : Int) : (ofInt n).truncate.natAbs = nearestWhole n.natAbs :=
  natAbs_truncate (ofInt n)

/-- A large number is its whole part, so it is the nearest one to that. -/
theorem nearestWhole_truncate {x : Binary64} (hx : x.isFinite) (h : binade ≤ x.truncate.natAbs) :
    nearestWhole x.truncate.natAbs = x.truncate.natAbs := by
  have hm : x.magnitude ≤ infinityMagnitude := (of_decide_eq_true hx).le
  rw [natAbs_truncate] at h ⊢
  have hle : binade * unitsPerOne ≤ x.units :=
    (Nat.mul_le_mul_right _ h).trans (Nat.div_mul_le_self _ _)
  have hleast : leastWhole ≤ x.magnitude := by
    by_contra hno
    have hmono := unitsOf_mono (by decide) (Nat.le_of_not_le hno)
    rw [unitsOf_leastWhole] at hmono
    have heq : unitsOf x.magnitude = unitsOf leastWhole :=
      (hmono.antisymm hle).trans unitsOf_leastWhole.symm
    exact hno (unitsOf_injective hm (by decide) heq).ge
  refine nearestWhole_of_unitsOf hm ?_
  exact (Nat.div_mul_cancel (unitsPerOne_dvd_unitsOf hleast)).symm

end Binary64

open Binary64 (unitsPerOne infinityMagnitude unitsOf)

variable {ds : List Char}

inductive Writes : List Char → Int → Prop
  | digits {ds : List Char} (hne : ds ≠ []) (hd : ∀ c ∈ ds, c.isDigit) : Writes ds (digitsValue ds)
  | plus {ds : List Char} (hne : ds ≠ []) (hd : ∀ c ∈ ds, c.isDigit) :
    Writes ('+' :: ds) (digitsValue ds)
  | minus {ds : List Char} (hne : ds ≠ []) (hd : ∀ c ∈ ds, c.isDigit) :
    Writes ('-' :: ds) (-(digitsValue ds : Int))

theorem writes_intDigits (n : Int) : Writes (intDigits n) n := by
  have hne := decimalDigits_ne_nil n.natAbs
  have hd : ∀ c ∈ decimalDigits n.natAbs, c.isDigit := fun c hc => isDigit_of_mem_decimalDigits hc
  have hvalue := digitsValue_decimalDigits n.natAbs
  rw [intDigits]
  split_ifs with hneg
  · have hn : n = -(digitsValue (decimalDigits n.natAbs) : Int) := by omega
    generalize decimalDigits n.natAbs = ds at *
    rw [hn]
    exact .minus hne hd
  · have hn : n = digitsValue (decimalDigits n.natAbs) := by omega
    generalize decimalDigits n.natAbs = ds at *
    rw [hn]
    exact .digits hne hd

theorem Decimal.ofChars?_digits (hne : ds ≠ []) (hd : ∀ c ∈ ds, c.isDigit) :
    Decimal.ofChars? ds = some ⟨digitsValue ds, 0⟩ := by
  have htake : ds.takeWhile Char.isDigit = ds := List.takeWhile_eq_self_iff.mpr hd
  have hdrop : ds.dropWhile Char.isDigit = [] := List.dropWhile_eq_nil_iff.mpr hd
  have hempty : ds.isEmpty = false := by simpa using hne
  simp [Decimal.ofChars?, htake, hdrop, hempty, Decimal.exponentPart]

theorem unitsOf_infinity_le {p : Nat} (hp : p = 310) :
    unitsOf infinityMagnitude ≤ 10 ^ p * unitsPerOne := by
  have hbound : unitsOf infinityMagnitude ≤ Nat.pow 10 310 * unitsPerOne := by decide +kernel
  generalize 310 = q at hbound hp
  subst hp
  exact hbound

theorem Decimal.nearest_whole (negative : Bool) (k : Nat) :
    (⟨k, 0⟩ : Decimal).nearest negative = .nearest negative (k * unitsPerOne) 1 := by
  have hdigits : (⟨k, 0⟩ : Decimal).point = (decimalDigits k).length := Int.add_zero _
  by_cases hzero : k = 0
  · subst hzero
    cases negative <;> decide +kernel
  · by_cases hmost : (⟨k, 0⟩ : Decimal).point ≤ 310
    · have hplaces := nearest_of_places ⟨hzero, by omega, hmost⟩ negative (Int.le_refl (0 + (0 : Nat)))
      simpa using hplaces
    · -- too large for a finite number in both readings
      obtain ⟨p, hp⟩ : ∃ p, p = 310 := ⟨_, rfl⟩
      have hk : 10 ^ p ≤ k := by
        by_contra hsmall
        have hplaces : p + (0 : Int) ≤ 310 := by omega
        exact hmost (point_le (by omega) (Nat.lt_of_not_le hsmall) hplaces)
      have hinf : Binary64.nearestMagnitude (k * unitsPerOne) 1 = infinityMagnitude := by
        refine Nat.le_antisymm (Nat.min_le_right _ _)
          (Binary64.le_nearestMagnitude Nat.one_pos (Nat.le_refl _) ?_)
        rw [Nat.mul_one]
        exact (unitsOf_infinity_le hp).trans (Nat.mul_le_mul_right _ hk)
      rw [nearest, if_neg hzero, if_pos (Int.not_le.mp hmost)]
      simp only [Binary64.infinity, Binary64.nearest, hinf]

/-- The text of a whole number is read as the number nearest to it. A sign before a zero is kept. -/
theorem Binary64.ofText?_writes {cs : List Char} {n : Int} (h : Writes cs n) :
    ∃ negative, Binary64.ofText? (String.ofList cs) =
      some (.nearest negative (n.natAbs * unitsPerOne) 1) ∧
      (n ≠ 0 → negative = decide (n < 0)) := by
  have hread : ∀ (negative : Bool) {ds : List Char}, ds ≠ [] → (∀ c ∈ ds, c.isDigit) →
      (Decimal.ofChars? ds).map (Decimal.nearest negative) =
        some (.nearest negative (digitsValue ds * unitsPerOne) 1) := by
    intro negative ds hne hd
    rw [Decimal.ofChars?_digits hne hd, Option.map_some, Decimal.nearest_whole]
  cases h with
  | @digits ds hne hd =>
    obtain ⟨c, more, rfl⟩ := List.exists_cons_of_ne_nil hne
    have hdigit : c.isDigit := hd c List.mem_cons_self
    have hsplit := @Binary64.ofText?_digits false c hdigit more
    exact ⟨false, hsplit.trans (hread false hne hd), by simp⟩
  | @plus ds hne hd =>
    obtain ⟨c, more, rfl⟩ := List.exists_cons_of_ne_nil hne
    have hdigit : c.isDigit := hd c List.mem_cons_self
    exact ⟨false, (Binary64.ofText?_plus hdigit more).trans (hread false hne hd), by simp⟩
  | @minus ds hne hd =>
    obtain ⟨c, more, rfl⟩ := List.exists_cons_of_ne_nil hne
    have hdigit : c.isDigit := hd c List.mem_cons_self
    have hsplit := @Binary64.ofText?_digits true c hdigit more
    refine ⟨true, hsplit.trans ?_, fun hn => ?_⟩
    · rw [Int.natAbs_neg, Int.natAbs_natCast]
      exact hread true hne hd
    · simp
      omega

end FleetDrift.Number
