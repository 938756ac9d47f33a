import FleetDrift.Number.Binary64
import Mathlib.Algebra.Group.Nat.Defs
import Mathlib.Data.Nat.Log

/-!
# Rounding to Binary64 numbers

Rounding a quotient depends on its value alone, and the units of a finite number round to it.
-/

namespace FleetDrift.Number.Binary64

variable {m n d k : Nat}

theorem roundHalfEven_mul_right (n d : Nat) (hk : 0 < k) :
    roundHalfEven (n * k) (d * k) = roundHalfEven n d := by
  have hlt : 2 * (n % d * k) < d * k ↔ 2 * (n % d) < d := by
    rw [← Nat.mul_assoc]
    exact Nat.mul_lt_mul_right hk
  have heq : 2 * (n % d * k) = d * k ↔ 2 * (n % d) = d := by
    rw [← Nat.mul_assoc]
    exact Nat.mul_right_cancel_iff hk
  simp only [roundHalfEven, Nat.mul_div_mul_right _ _ hk, Nat.mul_mod_mul_right, hlt, heq]

theorem roundHalfEven_mul_self (n : Nat) (hd : 0 < d) : roundHalfEven (n * d) d = n := by
  rw [roundHalfEven, Nat.mul_mod_left, Nat.mul_div_cancel _ hd, if_pos (by simpa using hd)]

theorem roundHalfEven_mono (h : m ≤ n) : roundHalfEven m d ≤ roundHalfEven n d := by
  have hq : m / d ≤ n / d := Nat.div_le_div_right h
  rcases hq.lt_or_eq with hlt | heq
  · have hup : m / d % 2 ≤ 1 := by omega
    simp only [roundHalfEven]
    split_ifs <;> omega
  · have hr : m % d ≤ n % d := by
      have hm := Nat.div_add_mod m d
      have hn := Nat.div_add_mod n d
      rw [heq] at hm
      omega
    simp only [roundHalfEven, heq]
    split_ifs <;> omega

/-- A bound that is a whole number is kept. -/
theorem roundHalfEven_le (h : n ≤ k * d) (hd : 0 < d) : roundHalfEven n d ≤ k :=
  (roundHalfEven_mono h).trans_eq (roundHalfEven_mul_self k hd)

theorem div_le_roundHalfEven (n d : Nat) : n / d ≤ roundHalfEven n d := by
  simp only [roundHalfEven]
  split_ifs <;> omega

theorem nearestMagnitude_mul_right (n d : Nat) (hk : 0 < k) :
    nearestMagnitude (n * k) (d * k) = nearestMagnitude n d := by
  simp only [nearestMagnitude, Nat.mul_div_mul_right _ _ hk]
  rw [Nat.mul_right_comm d k, roundHalfEven_mul_right _ _ hk]

theorem unitsOf_of_lt (h : m < 2 * binade) : unitsOf m = m := by
  rw [unitsOf]
  split_ifs with hb
  · rfl
  · have hdiv : m / binade = 1 := by
      refine Nat.div_eq_of_lt_le ?_ h
      rw [Nat.one_mul]
      exact Nat.le_of_not_lt hb
    have hmod := Nat.div_add_mod m binade
    rw [hdiv, Nat.mul_one] at hmod
    rw [hdiv, hmod]
    exact Nat.mul_one m

theorem exists_exponent (h : binade ≤ m) :
    ∃ e f, f < binade ∧ m = e * binade + (binade + f) ∧ unitsOf m = (binade + f) * 2 ^ e := by
  have hpos : 0 < binade := by decide
  have hdiv : 1 ≤ m / binade := (Nat.one_le_div_iff hpos).mpr h
  refine ⟨m / binade - 1, m % binade, Nat.mod_lt _ hpos, ?_, ?_⟩
  · calc m = m / binade * binade + m % binade := (Nat.div_add_mod' m binade).symm
      _ = (m / binade - 1 + 1) * binade + m % binade := by rw [Nat.sub_add_cancel hdiv]
      _ = (m / binade - 1) * binade + (binade + m % binade) := by
        rw [Nat.add_one_mul, Nat.add_assoc]
  · rw [unitsOf, if_neg (Nat.not_lt.mpr h)]
    rfl

theorem unitsOf_pos {m : Nat} (h : m ≠ 0) : 0 < unitsOf m := by
  rw [unitsOf]
  split_ifs with hb
  · exact Nat.pos_of_ne_zero h
  · exact Nat.mul_pos (Nat.add_pos_left (by decide) _) (Nat.pow_pos (by decide))

theorem unitsOf_lt {m : Nat} (h : m < infinityMagnitude) : unitsOf m < 2 ^ 2098 := by
  by_cases hb : m < binade
  · rw [unitsOf_of_lt (by omega)]
    have hle : infinityMagnitude ≤ 2 ^ 2098 := by decide +kernel
    omega
  · obtain ⟨e, f, hf, hm, hu⟩ := exists_exponent (Nat.le_of_not_lt hb)
    have he : e ≤ 2045 := by
      by_contra hno
      have hstep : 2046 * binade ≤ e * binade := Nat.mul_le_mul_right _ (by omega)
      have hinf : infinityMagnitude = 2046 * binade + binade := by decide
      omega
    have hlt : unitsOf m < 2 ^ (53 + e) := calc
      unitsOf m = (binade + f) * 2 ^ e := hu
      _ < (binade + binade) * 2 ^ e :=
        Nat.mul_lt_mul_of_pos_right (by omega) (Nat.pow_pos (by decide))
      _ = 2 ^ (53 + e) := by
        rw [Nat.pow_add]
        rfl
    have hexp : 53 + e ≤ 2098 := by omega
    refine hlt.trans_le ?_
    apply Nat.pow_le_pow_right
    · decide
    · exact hexp

theorem log2_significand {f : Nat} (e : Nat) (hf : f < binade) :
    ((binade + f) * 2 ^ e).log2 = 52 + e := by
  have hpos : (binade + f) * 2 ^ e ≠ 0 :=
    Nat.mul_ne_zero (by simp [binade]) (Nat.pow_pos (by decide)).ne'
  refine (Nat.log2_eq_iff hpos).mpr ⟨?_, ?_⟩
  · rw [Nat.pow_add]
    exact Nat.mul_le_mul_right _ (Nat.le_add_right _ f)
  · rw [Nat.add_right_comm, Nat.pow_add]
    refine Nat.mul_lt_mul_of_pos_right ?_ (Nat.pow_pos (by decide))
    have hsucc : 2 ^ (52 + 1) = binade + binade := by decide
    rw [hsucc]
    exact Nat.add_lt_add_left hf binade

/-- How far the significand of a value is shifted to the left. -/
def shiftOf (q : Nat) : Nat := if q < 2 * binade then 0 else q.log2 - 52

theorem shiftOf_mono {p q : Nat} (h : p ≤ q) : shiftOf p ≤ shiftOf q := by
  rw [shiftOf, shiftOf]
  split_ifs with hp hq
  · exact Nat.le_refl 0
  · exact Nat.zero_le _
  · omega
  · refine Nat.sub_le_sub_right ?_ 52
    have hne : p ≠ 0 := by
      rintro rfl
      exact hp (by decide)
    exact (Nat.le_log2 (by omega)).mpr ((Nat.log2_self_le hne).trans h)

theorem lt_shifted (hd : 0 < d) : n < 2 * binade * (d * 2 ^ shiftOf (n / d)) := by
  have hn : n < d * (n / d + 1) := Nat.lt_mul_div_succ n hd
  have hq : n / d + 1 ≤ 2 * binade * 2 ^ shiftOf (n / d) := by
    rw [shiftOf]
    split_ifs with hsmall
    · rw [Nat.pow_zero, Nat.mul_one]
      exact hsmall
    · have hle : 53 ≤ (n / d).log2 := by
        refine (Nat.le_log2 ?_).mpr (Nat.le_of_not_lt hsmall)
        rintro hzero
        exact hsmall (by rw [hzero]; decide)
      have htwo : 2 * binade = 2 ^ 53 := by decide
      rw [htwo, ← Nat.pow_add]
      have hexp : 53 + ((n / d).log2 - 52) = (n / d).log2 + 1 := by omega
      rw [hexp]
      exact Nat.lt_log2_self
  calc n < d * (n / d + 1) := hn
    _ ≤ d * (2 * binade * 2 ^ shiftOf (n / d)) := Nat.mul_le_mul_left d hq
    _ = 2 * binade * (d * 2 ^ shiftOf (n / d)) := Nat.mul_left_comm _ _ _

theorem shiftOf_unitsOf {e f : Nat} (hf : f < binade) : shiftOf ((binade + f) * 2 ^ e) = e := by
  rw [shiftOf, log2_significand e hf, Nat.add_sub_cancel_left]
  split_ifs with h
  · -- a doubled significand leaves the first two binades
    by_contra hne
    have htwo : 2 ^ 1 ≤ 2 ^ e := Nat.pow_le_pow_right (by decide) (by omega)
    have hle := Nat.mul_le_mul (Nat.le_add_right binade f) htwo
    omega
  · rfl

theorem binade_le_shifted {q : Nat} (h : shiftOf q ≠ 0) : binade * 2 ^ shiftOf q ≤ q := by
  have hbig : ¬ q < 2 * binade := fun hsmall => h (if_pos hsmall)
  have hshift : shiftOf q = q.log2 - 52 := if_neg hbig
  have hexp : 52 + shiftOf q = q.log2 := by omega
  calc binade * 2 ^ shiftOf q = 2 ^ (52 + shiftOf q) := by
        rw [Nat.pow_add]
        rfl
    _ = 2 ^ q.log2 := by rw [hexp]
    _ ≤ q := Nat.log2_self_le fun hq => hbig (by rw [hq]; decide)

theorem nearestMagnitude_eq (n d : Nat) : nearestMagnitude n d =
    min (shiftOf (n / d) * binade + roundHalfEven n (d * 2 ^ shiftOf (n / d)))
      infinityMagnitude :=
  rfl

theorem nearestMagnitude_mono (hd : 0 < d) (h : m ≤ n) :
    nearestMagnitude m d ≤ nearestMagnitude n d := by
  have hq : m / d ≤ n / d := Nat.div_le_div_right h
  rw [nearestMagnitude_eq, nearestMagnitude_eq]
  refine Nat.le_min.mpr ⟨(Nat.min_le_left _ _).trans ?_, Nat.min_le_right _ _⟩
  rcases (shiftOf_mono hq).lt_or_eq with hlt | heq
  · -- the upper significand fills its binade, the lower one does not leave the binade below it
    have hbelow : roundHalfEven m (d * 2 ^ shiftOf (m / d)) ≤ 2 * binade :=
      roundHalfEven_le (lt_shifted hd).le (Nat.mul_pos hd (Nat.pow_pos (by decide)))
    have hfull : binade ≤ n / d / 2 ^ shiftOf (n / d) :=
      (Nat.le_div_iff_mul_le (Nat.pow_pos (by decide))).mpr (binade_le_shifted (by omega))
    have habove : binade ≤ roundHalfEven n (d * 2 ^ shiftOf (n / d)) := by
      rw [Nat.div_div_eq_div_mul] at hfull
      exact hfull.trans (div_le_roundHalfEven _ _)
    have hstep : (shiftOf (m / d) + 1) * binade ≤ shiftOf (n / d) * binade :=
      Nat.mul_le_mul_right _ hlt
    rw [Nat.add_one_mul] at hstep
    omega
  · rw [heq]
    exact Nat.add_le_add_left (roundHalfEven_mono h) _

/-- Every finite magnitude is the nearest one to its own units, and so is that of infinity. -/
theorem nearestMagnitude_unitsOf (hm : m ≤ infinityMagnitude) (hk : 0 < k) :
    nearestMagnitude (unitsOf m * k) k = m := by
  rw [nearestMagnitude_eq, Nat.mul_div_cancel _ hk]
  by_cases h : m < binade
  · have hshift : shiftOf m = 0 := if_pos (by omega)
    rw [unitsOf_of_lt (by omega), hshift, Nat.zero_mul, Nat.zero_add, Nat.pow_zero, Nat.mul_one,
      roundHalfEven_mul_self m hk]
    exact Nat.min_eq_left hm
  · obtain ⟨e, f, hf, hef, hu⟩ := exists_exponent (Nat.le_of_not_lt h)
    have hden : 0 < k * 2 ^ e := Nat.mul_pos hk (Nat.pow_pos (by decide))
    rw [hu, shiftOf_unitsOf hf, Nat.mul_assoc, Nat.mul_comm (2 ^ e) k,
      roundHalfEven_mul_self _ hden, ← hef]
    exact Nat.min_eq_left hm

/-- Magnitudes of one value are the same. -/
theorem unitsOf_injective (hm : m ≤ infinityMagnitude) (hn : n ≤ infinityMagnitude)
    (h : unitsOf m = unitsOf n) : m = n := by
  rw [← nearestMagnitude_unitsOf hm Nat.one_pos, h, nearestMagnitude_unitsOf hn Nat.one_pos]

/-- A quotient that is no greater than a value rounds to no greater a magnitude. -/
theorem nearestMagnitude_le (hd : 0 < d) (h : n ≤ unitsOf m * d) : nearestMagnitude n d ≤ m := by
  by_cases hm : m ≤ infinityMagnitude
  · exact (nearestMagnitude_mono hd h).trans_eq (nearestMagnitude_unitsOf hm hd)
  · exact (Nat.min_le_right _ _).trans (Nat.le_of_not_le hm)

/-- A quotient that is no less than a value rounds to no less a magnitude. -/
theorem le_nearestMagnitude (hd : 0 < d) (hm : m ≤ infinityMagnitude) (h : unitsOf m * d ≤ n) :
    m ≤ nearestMagnitude n d :=
  (nearestMagnitude_unitsOf hm hd).ge.trans (nearestMagnitude_mono hd h)

theorem unitsOf_mono (hn : n ≤ infinityMagnitude) (h : m ≤ n) : unitsOf m ≤ unitsOf n := by
  by_contra hno
  have hle : nearestMagnitude (unitsOf n * 1) 1 ≤ m := nearestMagnitude_le Nat.one_pos (by omega)
  rw [nearestMagnitude_unitsOf hn Nat.one_pos] at hle
  exact hno (by rw [Nat.le_antisymm h hle])

theorem natAbs_truncate (x : Binary64) : x.truncate.natAbs = x.units / unitsPerOne := by
  rw [truncate]
  split_ifs
  · rw [Int.natAbs_neg, Int.natAbs_natCast]
  · rw [Int.natAbs_natCast]

end FleetDrift.Number.Binary64
