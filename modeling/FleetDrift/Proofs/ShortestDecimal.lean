import FleetDrift.Number.Shortest
import FleetDrift.Proofs.Rounding

/-!
# Shortest decimals read back

A zero at the end of the digits counts as one in the exponent, so the shortest decimal of a finite
number is read as that number also after its zeros were dropped.
-/

namespace FleetDrift.Number

open Binary64 (unitsPerOne infinityMagnitude nearestMagnitude)

theorem Binary64.nearest_mul_right (negative : Bool) (n d : Nat) {k : Nat} (hk : 0 < k) :
    Binary64.nearest negative (n * k) (d * k) = Binary64.nearest negative n d := by
  simp only [Binary64.nearest, Binary64.nearestMagnitude_mul_right _ _ hk]

/-- The units of a finite number round to it. -/
theorem Binary64.nearest_units {x : Binary64} (hx : x.isFinite) {k : Nat} (hk : 0 < k) :
    Binary64.nearest x.negative (x.units * k) k = x := by
  have hm : x.magnitude < infinityMagnitude := by simpa [Binary64.isFinite] using hx
  have hmag : nearestMagnitude (x.units * k) k = x.magnitude :=
    Binary64.nearestMagnitude_unitsOf hm.le hk
  simp only [Binary64.nearest, hmag]

namespace Decimal

structure InRange (d : Decimal) : Prop where
  nonzero : d.digits ≠ 0
  least : -330 ≤ d.point
  most : d.point ≤ 310

@[simp] theorem nearest_zero (negative : Bool) (e : Int) :
    (⟨0, e⟩ : Decimal).nearest negative = Binary64.zero.withSign negative := if_pos rfl

theorem nearest_of_places {d : Decimal} (hd : d.InRange) (negative : Bool) {places : Nat}
    (h : 0 ≤ d.exponent + places) :
    d.nearest negative =
      .nearest negative (d.digits * 10 ^ (d.exponent + places).toNat * unitsPerOne)
        (10 ^ places) := by
  rw [nearest, if_neg hd.nonzero, if_neg (not_lt.mpr hd.most), if_neg (not_lt.mpr hd.least)]
  split_ifs with he
  · have hexp : (d.exponent + places).toNat = d.exponent.toNat + places := by omega
    have hscale := Binary64.nearest_mul_right negative
      (d.digits * 10 ^ d.exponent.toNat * unitsPerOne) 1
      (Nat.pow_pos (n := places) (a := 10) (by decide))
    rw [Nat.one_mul] at hscale
    rw [hexp, Nat.pow_add, ← Nat.mul_assoc, Nat.mul_right_comm _ (10 ^ places), hscale]
    rfl
  · have hexp : (-d.exponent).toNat + (d.exponent + places).toNat = places := by omega
    have hscale := Binary64.nearest_mul_right negative (d.digits * unitsPerOne)
      (10 ^ (-d.exponent).toNat)
      (Nat.pow_pos (n := (d.exponent + places).toNat) (a := 10) (by decide))
    rw [← Nat.pow_add, hexp] at hscale
    rw [Nat.mul_right_comm, hscale]
    rfl

theorem decimalDigits_mul_ten {n : Nat} (hn : n ≠ 0) :
    decimalDigits (10 * n) = decimalDigits n ++ ['0'] := by
  have h := Nat.toDigits_append_toDigits (b := 10) (n := n) (d := 0) (by decide)
    (Nat.pos_of_ne_zero hn) (by decide)
  rw [Nat.toDigits_zero, Nat.add_zero] at h
  exact h.symm

theorem point_mul_ten {n : Nat} (hn : n ≠ 0) (e : Int) :
    (⟨10 * n, e⟩ : Decimal).point = (⟨n, e + 1⟩ : Decimal).point := by
  simp only [point, decimalDigits_mul_ten hn, List.length_append, List.length_singleton]
  omega

theorem nearest_mul_ten (negative : Bool) (n : Nat) (e : Int) :
    (⟨10 * n, e⟩ : Decimal).nearest negative = (⟨n, e + 1⟩ : Decimal).nearest negative := by
  by_cases hn : n = 0
  · simp [nearest, hn]
  have hn' : 10 * n ≠ 0 := by omega
  have hpoint := point_mul_ten hn e
  by_cases hr : (⟨n, e + 1⟩ : Decimal).InRange
  · have hr' : (⟨10 * n, e⟩ : Decimal).InRange :=
      ⟨hn', hpoint ▸ hr.least, hpoint ▸ hr.most⟩
    have hplaces : 0 ≤ e + (-e).toNat := by omega
    have hplaces' : 0 ≤ e + 1 + (-e).toNat := by omega
    have hexp : (e + 1 + (-e).toNat).toNat = (e + (-e).toNat).toNat + 1 := by omega
    rw [nearest_of_places hr negative hplaces', nearest_of_places hr' negative hplaces, hexp,
      Nat.pow_succ, Nat.mul_comm 10 n, ← Nat.mul_assoc n, Nat.mul_right_comm n]
  · -- both are cut off on the same side
    have hcut : (⟨n, e + 1⟩ : Decimal).point > 310 ∨ (⟨n, e + 1⟩ : Decimal).point < -330 := by
      by_contra hno
      exact hr ⟨hn, by omega, by omega⟩
    rw [nearest, nearest, if_neg hn, if_neg hn', hpoint]
    rcases hcut with hcut | hcut
    · rw [if_pos hcut, if_pos hcut]
    · have hmost : ¬ (⟨n, e + 1⟩ : Decimal).point > 310 := by omega
      rw [if_neg hmost, if_neg hmost, if_pos hcut, if_pos hcut]

theorem nearest_mul_pow_ten (negative : Bool) (n k : Nat) (e : Int) :
    (⟨10 ^ k * n, e⟩ : Decimal).nearest negative = (⟨n, e + k⟩ : Decimal).nearest negative := by
  induction k generalizing e with
  | zero => simp
  | succ k ih =>
    rw [Nat.pow_succ, Nat.mul_comm (10 ^ k), Nat.mul_assoc, nearest_mul_ten, ih]
    congr 2
    omega

theorem nearest_strip (negative : Bool) (steps : Nat) (d : Decimal) :
    (d.strip steps).nearest negative = d.nearest negative := by
  induction steps generalizing d with
  | zero => rfl
  | succ steps ih =>
    rw [strip]
    split_ifs with h
    · have hten : 10 * (d.digits / 10) = d.digits := by omega
      rw [ih, ← nearest_mul_ten, hten]
    · rfl

theorem point_le {d : Decimal} {p : Int} {k : Nat} (hk : 0 < k) (h : d.digits < 10 ^ k)
    (hp : k + d.exponent ≤ p) : d.point ≤ p := by
  have hlen : (decimalDigits d.digits).length ≤ k :=
    (Nat.length_toDigits_le_iff (by decide) hk).mpr h
  rw [point]
  omega

theorem le_point {d : Decimal} {p : Int} {k : Nat} (hk : 0 < k) (h : 10 ^ k ≤ d.digits)
    (hp : p ≤ k + d.exponent) : p ≤ d.point := by
  have hlen : k < (decimalDigits d.digits).length := by
    by_contra hno
    have hlt := (Nat.length_toDigits_le_iff (by decide) hk).mp (Nat.le_of_not_lt hno)
    omega
  rw [point]
  omega

theorem ten_pow_le_five_pow : 10 ^ 744 ≤ Nat.pow 5 1074 := by decide +kernel

theorem two_pow_mul_five_pow_le : 2 ^ 2098 * Nat.pow 5 1074 ≤ 10 ^ 1384 := by decide +kernel

/-- The units of a binary fraction, brought to as many decimal places. -/
theorem inRange_fraction {x : Binary64} (hx : x.isFinite) (hz : x.magnitude ≠ 0) {places : Nat}
    (hlow : 10 ^ 744 ≤ Nat.pow 5 places) (hhigh : 2 ^ 2098 * Nat.pow 5 places ≤ 10 ^ 1384)
    (hplaces : places = 1074) : (⟨x.units * Nat.pow 5 places, -places⟩ : Decimal).InRange := by
  have hpos : 0 < x.units := Binary64.unitsOf_pos hz
  have hlt : x.units < 2 ^ 2098 := Binary64.unitsOf_lt (of_decide_eq_true hx)
  have hfive : 0 < Nat.pow 5 places := Nat.pow_pos (by decide)
  refine ⟨(Nat.mul_pos hpos hfive).ne', ?_, ?_⟩
  · refine le_point (k := 744) (by decide) ?_ (by dsimp only; omega)
    exact hlow.trans (Nat.le_mul_of_pos_left _ hpos)
  · refine point_le (k := 1384) (by decide) ?_ (by dsimp only; omega)
    exact (Nat.mul_lt_mul_of_pos_right hlt hfive).trans_le hhigh

theorem nearest_fraction {x : Binary64} (hx : x.isFinite) {places : Nat}
    (hunits : unitsPerOne = Nat.pow 2 places)
    (hr : (⟨x.units * Nat.pow 5 places, -places⟩ : Decimal).InRange) :
    (⟨x.units * Nat.pow 5 places, -places⟩ : Decimal).nearest x.negative = x := by
  have hzero : -(places : Int) + places = 0 := by omega
  have hcleared : 0 ≤ -(places : Int) + places := by omega
  rw [nearest_of_places hr x.negative hcleared, hzero, hunits,
    Int.toNat_zero, Nat.pow_zero, Nat.mul_one, Nat.mul_assoc, Nat.pow_eq, Nat.pow_eq, ← Nat.mul_pow]
  exact Binary64.nearest_units hx (Nat.pow_pos (by decide))

theorem nearest_exactDecimal {x : Binary64} (hx : x.isFinite) (hz : x.magnitude ≠ 0) :
    x.exactDecimal.nearest x.negative = x := by
  have hplaces : (-1074 : Int) = -((1074 : Nat) : Int) := by decide
  have hr := inRange_fraction hx hz ten_pow_le_five_pow two_pow_mul_five_pow_le rfl
  have hunits : unitsPerOne = Nat.pow 2 1074 := by decide +kernel
  have h := nearest_fraction hx hunits hr
  rwa [← hplaces] at h

end Decimal

namespace Shortest

variable {tie : Tie} {x : Binary64} {num den : Nat} {d : Decimal}

theorem nearest_of_candidate? {step : Int} (h : candidate? tie x num den step = some d) :
    d.nearest x.negative = x := by
  simp only [candidate?] at h
  split_ifs at h with h₁ h₂ h₃ h₄ <;> cases h <;> simp_all

theorem nearest_of_search {lead : Int} {steps count : Nat}
    (h : search tie x num den lead steps count = some d) : d.nearest x.negative = x := by
  induction steps generalizing count with
  | zero => cases h
  | succ steps ih =>
    rw [search] at h
    split at h
    · next c hc =>
      cases h
      rw [Decimal.nearest_strip]
      exact nearest_of_candidate? hc
    · exact ih h

end Shortest

/-- The shortest decimal of a finite number is read as that number. -/
theorem Binary64.nearest_shortest {x : Binary64} (hx : x.isFinite) (tie : Tie) :
    (x.shortest tie).nearest x.negative = x := by
  by_cases hz : x.magnitude = 0
  · have hzero : x.isZero = true := by simpa [Binary64.isZero] using hz
    rw [Binary64.shortest, if_pos hzero]
    obtain ⟨negative, magnitude, hlt⟩ := x
    subst hz
    rfl
  · have hzero : ¬ x.isZero = true := by simpa [Binary64.isZero] using hz
    simp only [Binary64.shortest, if_neg hzero]
    cases hs : Shortest.search tie x x.units unitsPerOne
        (Shortest.leadingExponent 6 x.units unitsPerOne
          (Shortest.exponentBound x.units unitsPerOne)) 17 1 with
    | none => exact Decimal.nearest_exactDecimal hx hz
    | some d => exact Shortest.nearest_of_search hs

end FleetDrift.Number
