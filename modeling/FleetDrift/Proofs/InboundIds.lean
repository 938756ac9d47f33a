import FleetDrift.Proofs.LenientDecoding
import FleetDrift.Proofs.WholeNumbers

/-! # Ids that are decoded

A JSON integer of the 64-bit range is taken as it is, all else by way of the nearest Binary64 number.
So the last digits of a long text are lost. The range ends below `2 ^ 63`, but the numbers are
compared with `2 ^ 63` itself, which is what the greatest 64-bit number is rounded to.
-/

namespace FleetDrift

open Json (Value Fields)
open Number (Binary64 Writes fitsInt64 fitsInt64_iff)

/-- The id that a whole number denotes: itself, or zero when it is out of range. -/
def idOf (n : Int) : Int64 := if fitsInt64 n then Int64.ofInt n else 0

namespace Number

open Binary64 (nearestWhole unitsPerOne unitsOf)

namespace Binary64

variable {k : Nat}

/-- `2 ^ 63 + 1024` is half-way to the next Binary64 number, and `2 ^ 63` is the even one. -/
theorem nearestWhole_le (h : k ≤ 0x8000000000000000 + 1024) :
    nearestWhole k ≤ 0x8000000000000000 := by
  have hmost : nearestWhole (0x8000000000000000 + 1024) = 0x8000000000000000 := by decide +kernel
  exact hmost ▸ nearestWhole_mono h

theorem lt_nearestWhole (h : 0x8000000000000000 + 1024 < k) :
    0x8000000000000000 < nearestWhole k := by
  have hleast : 0x8000000000000000 < nearestWhole (0x8000000000000000 + 1025) := by decide +kernel
  exact hleast.trans_le (nearestWhole_mono h)

/-- The greatest 64-bit number is rounded out of the range. -/
theorem le_nearestWhole (h : 0x7fffffffffffffff ≤ k) : 0x8000000000000000 ≤ nearestWhole k := by
  have hleast : nearestWhole 0x7fffffffffffffff = 0x8000000000000000 := by decide +kernel
  exact hleast ▸ nearestWhole_mono h

end Binary64

def Representable (n : Int) : Prop :=
  ∃ x : Binary64, x.isFinite ∧ x.signedUnits = n * (unitsPerOne : Int)

variable {n : Int}

theorem isFinite_ofInt (h : n.natAbs ≤ 0x8000000000000000 + 1024) : (Binary64.ofInt n).isFinite :=
  Decimal.isFinite_ofInt (by omega)

theorem negative_ofInt (n : Int) : (Binary64.ofInt n).negative = decide (n < 0) := rfl

theorem truncate_ofInt (n : Int) : (Binary64.ofInt n).truncate =
    if n < 0 then -(nearestWhole n.natAbs : Int) else nearestWhole n.natAbs := by
  have hunits : (Binary64.ofInt n).units / unitsPerOne = nearestWhole n.natAbs := rfl
  simp only [Binary64.truncate, negative_ofInt, hunits, decide_eq_true_eq]

theorem representable_iff (h : n.natAbs ≤ 0x8000000000000000 + 1024) :
    Representable n ↔ nearestWhole n.natAbs = n.natAbs := by
  constructor
  · rintro ⟨x, hx, hvalue⟩
    have hunits : x.units = n.natAbs * unitsPerOne := by
      have habs := congrArg Int.natAbs hvalue
      rw [Binary64.signedUnits, Int.natAbs_mul, Int.natAbs_natCast] at habs
      split_ifs at habs
      · rwa [Int.natAbs_neg, Int.natAbs_natCast] at habs
      · rwa [Int.natAbs_natCast] at habs
    exact Binary64.nearestWhole_of_unitsOf (Binary64.isFinite_iff.mp hx).le hunits
  · intro hexact
    have hunits : (Binary64.ofInt n).units = n.natAbs * unitsPerOne := by
      have hwhole := Binary64.unitsOf_nearestMagnitude_whole n.natAbs
      rwa [hexact] at hwhole
    refine ⟨Binary64.ofInt n, isFinite_ofInt h, ?_⟩
    simp only [Binary64.signedUnits, hunits, negative_ofInt, decide_eq_true_eq, Int.natCast_mul]
    split_ifs with hneg
    · rw [Int.ofNat_natAbs_of_nonpos hneg.le, Int.neg_mul, Int.neg_neg]
    · rw [Int.natAbs_of_nonneg (Int.not_lt.mp hneg)]

end Number

namespace Lenient

/-- The bound on the number is one on its whole part, for beyond it there are no fractions. -/
theorem truncated_eq (x : Binary64) : truncated x =
    if x.truncate.natAbs ≤ 0x8000000000000000 then Int64.ofInt (min x.truncate 0x7fffffffffffffff)
    else 0 := by
  have hunits := Binary64.unitsOf_le_iff (m := x.magnitude) (n := 0x8000000000000000) (by decide)
  have hbound : -((0x8000000000000000 : Int) * Binary64.unitsPerOne) ≤ x.signedUnits ∧
      x.signedUnits ≤ (0x8000000000000000 : Int) * Binary64.unitsPerOne ↔
      x.truncate.natAbs ≤ 0x8000000000000000 := by
    rw [Binary64.natAbs_truncate, Binary64.units, ← hunits, Binary64.signedUnits, Binary64.units]
    generalize Binary64.unitsOf x.magnitude = u
    generalize Binary64.unitsPerOne = one
    split_ifs <;> omega
  exact if_congr hbound rfl rfl

end Lenient

theorem idOf_of_fits {n : Int} (h : fitsInt64 n) : idOf n = Int64.ofInt n := if_pos h

theorem idOf_of_not_fits {n : Int} (h : ¬ fitsInt64 n) : idOf n = 0 := if_neg h

theorem ofInt_eq_ofInt_iff {m n : Int} (hm : fitsInt64 m) (hn : fitsInt64 n) :
    Int64.ofInt m = Int64.ofInt n ↔ m = n := by
  constructor
  · intro h
    obtain ⟨hm, hm'⟩ := (fitsInt64_iff m).mp hm
    obtain ⟨hn, hn'⟩ := (fitsInt64_iff n).mp hn
    have htoInt := congrArg Int64.toInt h
    rwa [Int64.toInt_ofInt_of_le hm hm', Int64.toInt_ofInt_of_le hn hn'] at htoInt
  · rintro rfl
    rfl

theorem truncated_eq_idOf_iff (x : Binary64) :
    Lenient.truncated x = idOf x.truncate ↔ x.truncate ≠ 0x8000000000000000 := by
  rw [Lenient.truncated_eq]
  generalize x.truncate = n
  by_cases hend : n = 0x8000000000000000
  · subst hend
    decide
  · simp only [ne_eq, hend, not_false_eq_true, iff_true]
    split_ifs with hbound
    · have hmin : min n 0x7fffffffffffffff = n := by omega
      rw [idOf_of_fits ((fitsInt64_iff n).mpr (by omega)), hmin]
    · rw [idOf_of_not_fits]
      rw [fitsInt64_iff]
      omega

/-- The id by way of the nearest Binary64 number. -/
def throughReal (n : Int) : Int64 := Lenient.truncated (Lenient.number (.number (.whole n)))

variable {n : Int}

theorem throughReal_of_le (h : n.natAbs ≤ 0x8000000000000000 + 1024) :
    throughReal n = Int64.ofInt (min (Binary64.ofInt n).truncate 0x7fffffffffffffff) := by
  have hnumber : Lenient.number (.number (.whole n)) = Binary64.ofInt n :=
    if_pos (Number.isFinite_ofInt h)
  rw [throughReal, hnumber, Lenient.truncated_eq, if_pos]
  rw [Binary64.natAbs_truncate_ofInt]
  exact Binary64.nearestWhole_le h

theorem throughReal_of_lt (h : 0x8000000000000000 + 1024 < n.natAbs) : throughReal n = 0 := by
  have hnumber : Lenient.number (.number (.whole n)) =
      if (Binary64.ofInt n).isFinite then Binary64.ofInt n else .zero := rfl
  rw [throughReal, hnumber]
  split_ifs
  · rw [Lenient.truncated_eq, if_neg]
    rw [Binary64.natAbs_truncate_ofInt]
    exact Nat.not_le.mpr (Binary64.lt_nearestWhole h)
  · decide +kernel

/-- The detour changes whole numbers that are no Binary64 numbers, and lets some in that are just out
of range. The greatest one of the range is rounded up and cut down again. -/
theorem throughReal_eq_idOf_iff (n : Int) : throughReal n = idOf n ↔
    (fitsInt64 n ∧ (Number.Representable n ∨ n = 0x7fffffffffffffff)) ∨
    (¬ fitsInt64 n ∧ 0x8000000000000000 + 1024 < n.natAbs) := by
  by_cases hfar : 0x8000000000000000 + 1024 < n.natAbs
  · have hout : ¬ fitsInt64 n := mt (fitsInt64_iff n).mp (by omega)
    simp [throughReal_of_lt hfar, idOf_of_not_fits hout, hout, hfar]
  · have hnear := Nat.le_of_not_lt hfar
    have hmost := Binary64.nearestWhole_le hnear
    have hlast := @Binary64.le_nearestWhole n.natAbs
    rw [throughReal_of_le hnear, Number.truncate_ofInt, Number.representable_iff hnear]
    -- all that matters of the rounded number is on which side of the bounds it is
    generalize Binary64.nearestWhole n.natAbs = w at *
    have hkept : fitsInt64 (min (if n < 0 then -(w : Int) else w) 0x7fffffffffffffff) := by
      rw [fitsInt64_iff]
      split_ifs <;> omega
    by_cases hfits : fitsInt64 n
    · have hrange := (fitsInt64_iff n).mp hfits
      rw [idOf_of_fits hfits, ofInt_eq_ofInt_iff hkept hfits]
      simp only [hfits, true_and, not_true_eq_false, false_and, or_false]
      split_ifs <;> omega
    · have hrange := mt (fitsInt64_iff n).mpr hfits
      have hzero : (0 : Int64) = Int64.ofInt 0 := rfl
      rw [idOf_of_not_fits hfits, hzero, ofInt_eq_ofInt_iff hkept (by decide)]
      simp only [hfits, hfar, Bool.false_eq_true, false_and, and_false, or_false, iff_false]
      split_ifs <;> omega

open Lenient (int64 truncated number)

/-- Numbers denote their whole part, and texts what is written between blanks. -/
inductive Denotes : Value → Int → Prop
  | whole (n : Int) : Denotes (.number (.whole n)) n
  | real {x : Binary64} (finite : x.isFinite) : Denotes (.number (.real x)) x.truncate
  | text {s : String} {n : Int} (writes : Writes (Text.trim s).toList n) : Denotes (.string s) n

theorem int64_whole (n : Int) :
    int64 (.number (.whole n)) = if fitsInt64 n then Int64.ofInt n else throughReal n := by
  simp only [int64, Json.Numeral.int64?, throughReal]
  split_ifs
  · rw [Option.getD_some]
  · rw [Option.getD_none]

/-- Between `2 ^ 63` and the next Binary64 number is no whole part of one. -/
theorem lt_natAbs_truncate {x : Binary64} (hx : x.isFinite)
    (h : 0x8000000000000000 < x.truncate.natAbs) :
    0x8000000000000000 + 1024 < x.truncate.natAbs := by
  have hlarge : Binary64.binade ≤ 0x8000000000000000 := by decide
  have hwhole := Binary64.nearestWhole_truncate hx (hlarge.trans h.le)
  by_contra hno
  have hmost := Binary64.nearestWhole_le (Nat.le_of_not_lt hno)
  omega

theorem int64_real {x : Binary64} (hx : x.isFinite) : int64 (.number (.real x)) =
    if fitsInt64 x.truncate then Int64.ofInt x.truncate else throughReal x.truncate := by
  have hnumber : number (.number (.real x)) = x := if_pos hx
  have hdetour : int64 (.number (.real x)) = truncated x := congrArg truncated hnumber
  have hrange := fitsInt64_iff x.truncate
  rw [hdetour]
  split_ifs with hfits
  · rw [← idOf_of_fits hfits, truncated_eq_idOf_iff]
    have hin := hrange.mp hfits
    omega
  · by_cases hend : x.truncate = 0x8000000000000000
    · rw [Lenient.truncated_eq, hend]
      decide +kernel
    · have hout : 0x8000000000000000 < x.truncate.natAbs := by
        have hbeyond := mt hrange.mpr hfits
        omega
      rw [Lenient.truncated_eq, if_neg (Nat.not_le.mpr hout),
        throughReal_of_lt (lt_natAbs_truncate hx hout)]

/-- A text takes the detour even where a number does not. -/
theorem int64_string {s : String} (h : Writes (Text.trim s).toList n) :
    int64 (.string s) = throughReal n := by
  obtain ⟨negative, hread, hsign⟩ := Binary64.ofText?_writes h
  rw [String.ofList_toList] at hread
  have hnumber : number (.string s) =
      let x := Binary64.nearest negative (n.natAbs * Binary64.unitsPerOne) 1
      if x.isFinite then x else .zero := by
    simp only [number, hread, Option.getD_some]
  have hdetour : int64 (.string s) = truncated (number (.string s)) := rfl
  rw [hdetour, hnumber]
  by_cases hzero : n = 0
  · -- the sign of a zero is kept so far, and goes with the fraction
    subst hzero
    cases negative <;> decide +kernel
  · rw [hsign hzero]
    rfl

theorem Denotes.int64_eq {v : Value} (h : Denotes v n) : int64 v =
    if v.kind = .number ∧ fitsInt64 n then Int64.ofInt n else throughReal n := by
  cases h with
  | whole n => simp [int64_whole, Value.kind]
  | real finite => simp [int64_real finite, Value.kind]
  | text writes => simp [int64_string writes, Value.kind]

theorem Denotes.int64_eq_idOf_iff {v : Value} (h : Denotes v n) : int64 v = idOf n ↔
    (fitsInt64 n ∧ (v.kind = .number ∨ Number.Representable n ∨ n = 0x7fffffffffffffff)) ∨
    (¬ fitsInt64 n ∧ 0x8000000000000000 + 1024 < n.natAbs) := by
  rw [h.int64_eq]
  split_ifs with hexact
  · simp [hexact, idOf_of_fits hexact.2]
  · rw [throughReal_eq_idOf_iff]
    tauto

/-- What every object has for an id that has the value for it. -/
def DecodesId (v : Value) (id : Int64) : Prop :=
  ∀ fields : Fields, fields.get? Entry.Key.inboundId.name = some v →
    ∃ e, Entry.ofValue? (.object fields) = .ok e ∧ e.inboundId = id

theorem decodesId_iff {v : Value} {id : Int64} : DecodesId v id ↔ int64 v = id := by
  constructor
  · intro h
    obtain ⟨e, he, hid⟩ := h [("inboundId", v)] rfl
    cases he
    exact hid
  · intro h fields hv
    refine ⟨_, rfl, ?_⟩
    simp only [Entry.ofFields, Entry.ofValues, hv, Option.getD_some, h]

theorem Denotes.kind_eq {v : Value} (h : Denotes v n) : v.kind = .number ∨ v.kind = .string := by
  cases h with
  | whole => exact .inl rfl
  | real => exact .inl rfl
  | text => exact .inr rfl

/-- It makes no difference which value denotes a whole number, unless one is a text and the number is
no Binary64 number. -/
theorem Denotes.int64_eq_iff {v w : Value} (hv : Denotes v n) (hw : Denotes w n) :
    int64 v = int64 w ↔
      v.kind = w.kind ∨ ¬ fitsInt64 n ∨ Number.Representable n ∨ n = 0x7fffffffffffffff := by
  by_cases hkind : v.kind = w.kind
  · simp [hv.int64_eq, hw.int64_eq, hkind]
  · by_cases hfits : fitsInt64 n
    · have hdetour : throughReal n = Int64.ofInt n ↔
          Number.Representable n ∨ n = 0x7fffffffffffffff := by
        rw [← idOf_of_fits hfits, throughReal_eq_idOf_iff]
        simp [hfits]
      have hdetour' := eq_comm.trans hdetour
      rcases hv.kind_eq with hnumber | hstring
      · have hw' : w.kind ≠ .number := fun h => hkind (hnumber.trans h.symm)
        simp [hv.int64_eq, hw.int64_eq, hnumber, hw', hfits, hdetour', hw'.symm]
      · have hw' : w.kind = .number := hw.kind_eq.resolve_right fun h => hkind (hstring.trans h.symm)
        simp [hv.int64_eq, hw.int64_eq, hstring, hw', hfits, hdetour]
    · simp [hv.int64_eq, hw.int64_eq, hfits]

/-- Where ids are what values denote: numbers unless they are rounded to `2 ^ 63`, and of the texts
those that lose no digit. -/
theorem ids_denoted {v : Value} (h : Denotes v n) :
    (DecodesId v (idOf n) ↔
      (fitsInt64 n ∧ (v.kind = .number ∨ Number.Representable n ∨ n = 0x7fffffffffffffff)) ∨
      (¬ fitsInt64 n ∧ 0x8000000000000000 + 1024 < n.natAbs)) ∧
    ∀ w, Denotes w n → ((∃ id, DecodesId v id ∧ DecodesId w id) ↔
      v.kind = w.kind ∨ ¬ fitsInt64 n ∨ Number.Representable n ∨ n = 0x7fffffffffffffff) := by
  simp only [decodesId_iff, exists_eq_left', h.int64_eq_idOf_iff, true_and]
  intro w hw
  rw [eq_comm, h.int64_eq_iff hw]

def sevenPointNine : Binary64 := Number.Decimal.nearest false ⟨79, -1⟩

/-- A fraction, and a text between blanks that loses no digit yet. -/
theorem ids_denoted_seven :
    Denotes (.number (.real sevenPointNine)) 7 ∧
    DecodesId (.number (.real sevenPointNine)) 7 ∧
    Denotes (.string "\t-9007199254740992 ") (-9007199254740992) ∧
    DecodesId (.string "\t-9007199254740992 ") (-9007199254740992) := by
  have hreal : Denotes (.number (.real sevenPointNine)) 7 := by
    have hseven : sevenPointNine.truncate = 7 := by decide +kernel
    rw [← hseven]
    exact .real (by decide +kernel)
  have htext : Denotes (.string "\t-9007199254740992 ") (-9007199254740992) := by
    have htrim : (Text.trim "\t-9007199254740992 ").toList =
        Number.intDigits (-9007199254740992) := by decide +kernel
    exact .text (htrim ▸ Number.writes_intDigits _)
  have hexact : Number.Representable (-9007199254740992) :=
    ⟨Binary64.ofInt (-9007199254740992), by decide +kernel, by decide +kernel⟩
  refine ⟨hreal, (ids_denoted hreal).1.mpr ?_, htext, (ids_denoted htext).1.mpr ?_⟩
  · exact .inl ⟨by decide, .inl rfl⟩
  · exact .inl ⟨by decide, .inr (.inl hexact)⟩

/-- `2 ^ 63` is no id and yet not zero, and a text is not read as the number that it spells. -/
theorem ids_misread :
    ¬ DecodesId (.number (.whole 0x8000000000000000)) (idOf 0x8000000000000000) ∧
    DecodesId (.number (.whole 9007199254740993)) (idOf 9007199254740993) ∧
    Denotes (.string "9007199254740993") 9007199254740993 ∧
    ¬ DecodesId (.string "9007199254740993") (idOf 9007199254740993) := by
  have htext : Denotes (.string "9007199254740993") 9007199254740993 := by
    have htrim : (Text.trim "9007199254740993").toList = Number.intDigits 9007199254740993 := by
      decide +kernel
    exact .text (htrim ▸ Number.writes_intDigits _)
  simp only [decodesId_iff]
  exact ⟨by decide +kernel, by decide +kernel, htext, by decide +kernel⟩

end FleetDrift
