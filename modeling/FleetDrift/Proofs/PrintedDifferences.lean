import FleetDrift.Proofs.CanonicalText
import FleetDrift.Proofs.ComparisonContents
import FleetDrift.Report.Encoding

/-! # Printed differences
Compared values are the same exactly when they are printed alike. The delicate pairs are numbers: a
whole number is printed whole only within 64 bits, and both zeros are printed as one. So the values
that a report prints for a field are all different. -/
namespace FleetDrift

open Json (Value)
open Number (Binary64)

namespace FieldValue

def Finite : FieldValue → Prop
  | number x => x.isFinite
  | flag _ => True
  | text _ => True

variable {v w : FieldValue}

theorem Finite.toValue (h : v.Finite) : v.toValue.Finite := by
  cases v with
  | number x => exact Entry.finite_ofBinary64 h
  | flag b => exact .bool b
  | text s => exact .string s

theorem toValue_eq_iff : v.toValue = w.toValue ↔ v.Same w := by
  cases v with
  | number x =>
    cases w with
    | number y =>
      rw [toValue, toValue, Binary64.ofBinary64_eq_iff, Same, key, key, number.injEq]
    | flag b => exact iff_of_false (by rintro ⟨⟩) (by rintro ⟨⟩)
    | text s => exact iff_of_false (by rintro ⟨⟩) (by rintro ⟨⟩)
  | flag b =>
    cases w with
    | number y => exact iff_of_false (by rintro ⟨⟩) (by rintro ⟨⟩)
    | flag c => rw [toValue, toValue, Same, key, key, flag.injEq, Value.bool.injEq]
    | text s => exact iff_of_false (by rintro ⟨⟩) (by rintro ⟨⟩)
  | text s =>
    cases w with
    | number y => exact iff_of_false (by rintro ⟨⟩) (by rintro ⟨⟩)
    | flag b => exact iff_of_false (by rintro ⟨⟩) (by rintro ⟨⟩)
    | text t => rw [toValue, toValue, Same, key, key, text.injEq, Value.string.injEq]

/-- No line break is put into a value, wherever it stands. -/
theorem indented_toValue (v : FieldValue) (depth : Nat) :
    v.toValue.indented depth = v.toValue.chars := by
  cases v with
  | number x => rw [toValue, Value.ofBinary64, Value.indented, Value.chars]
  | flag b => rw [toValue, Value.indented, Value.chars]
  | text s => rw [toValue, Value.indented, Value.chars]

theorem same_iff_chars (hv : v.Finite) (hw : w.Finite) :
    v.Same w ↔ v.toValue.chars = w.toValue.chars := by
  rw [← toValue_eq_iff]
  constructor
  · intro h
    rw [h]
  · intro h
    exact Value.chars_injective hv.toValue hw.toValue h

end FieldValue

theorem Entry.Finite.value {e : Entry} (h : e.Finite) (field : Field) :
    (field.value e).Finite := by
  cases field
  case expiryTime => exact h.expiryTime
  case totalGB => exact h.totalGB
  case limitIp => exact h.limitIp
  all_goals trivial

/-- Values that are pairwise different are printed as pairwise different texts. -/
theorem Occurring.chars_nodup {field : Field} {members : List Entry} {values : List FieldValue}
    (h : Occurring field members values) (hfinite : ∀ v ∈ values, v.Finite) :
    (values.map fun v => v.toValue.chars).Nodup := by
  rw [List.nodup_iff_pairwise_ne, List.pairwise_map]
  refine h.different.imp_of_mem ?_
  intro v w hv hw hne hchars
  exact hne ((FieldValue.same_iff_chars (hfinite v hv) (hfinite w hw)).mpr hchars)

namespace Report

variable {entries : List Entry} {K : Identity} {s : SubGroup} {d : FieldDiff}

theorem occurring_values (h : (K, s) ∈ (ofEntries entries).listing)
    (hd : d ∈ s.comparison.fieldDiffs) : Occurring d.field s.copies d.values := by
  rw [comparison_eq h] at hd
  exact (compareCopies_exact s.protocol K.kind s.copies).values d hd

/-- A listed value is one that some entry has. -/
theorem exists_value_eq (h : (K, s) ∈ (ofEntries entries).listing)
    (hd : d ∈ s.comparison.fieldDiffs) {v : FieldValue} (hv : v ∈ d.values) :
    ∃ e ∈ entries, d.field.value e = v := by
  have hfirst := (occurring_values h hd).first v hv
  obtain ⟨e, he, hvalue⟩ := Option.map_eq_some_iff.mp hfirst
  have hmem := List.mem_of_find?_eq_some he
  rw [copies_eq h] at hmem
  exact ⟨e, (mem_copiesOf.mp hmem).1, hvalue⟩

end Report

/-- Finite values are the same exactly when their compact texts are, or their indented ones. What a
report prints for a field is pairwise different at every depth. -/
theorem values_same_iff_printed_alike :
    (∀ v w : FieldValue, v.Finite → w.Finite →
      (v.Same w ↔ v.toValue.print = w.toValue.print) ∧
      (v.Same w ↔ v.toValue.pretty = w.toValue.pretty)) ∧
    ∀ entries : List Entry, (∀ e ∈ entries, ∀ field : Field, (field.value e).Finite) →
      ∀ g ∈ (Report.ofEntries entries).groups, ∀ s ∈ g.subGroups,
        ∀ d ∈ s.comparison.fieldDiffs,
          (d.values.map fun v => v.toValue.print).Nodup ∧
          ∀ depth, (d.values.map fun v => v.toValue.indented depth).Nodup := by
  constructor
  · intro v w hv hw
    simp only [Value.print, Value.pretty, FieldValue.indented_toValue, String.ofList_inj]
    exact ⟨FieldValue.same_iff_chars hv hw, FieldValue.same_iff_chars hv hw⟩
  · intro entries hfinite g hg s hs d hd
    have h := Report.mem_listing.mpr ⟨g, hg, rfl, hs⟩
    have hvalues : ∀ v ∈ d.values, v.Finite := by
      intro v hv
      obtain ⟨e, he, rfl⟩ := Report.exists_value_eq h hd hv
      exact hfinite e he d.field
    have hnodup := (Report.occurring_values h hd).chars_nodup hvalues
    constructor
    · have hprint := hnodup.map (f := String.ofList) fun _ _ => String.ofList_inj.mp
      rwa [List.map_map] at hprint
    · intro depth
      simpa only [FieldValue.indented_toValue] using hnodup

def copiesAtLimit : List Entry :=
  [("a", .ofInt (2 ^ 63)), ("b", .ofInt (2 ^ 63 - 1024)), ("c", .zero),
    ("d", Binary64.zero.neg)].map fun (server, quota) =>
      { vlessCopy server "u1" true 0 with totalGB := quota }

def groupAtLimit : SubGroup := .ofDisagreeing "vless" .email copiesAtLimit

theorem groupAtLimit_listed :
    (⟨.email, "u@x.io"⟩, groupAtLimit) ∈ (Report.ofEntries copiesAtLimit).listing :=
  Report.listing_of_one_client copiesAtLimit (by decide +kernel) (by decide +kernel)

theorem finite_copiesAtLimit : ∀ e ∈ copiesAtLimit, e.Finite := by
  have hexpiry : ∀ e ∈ copiesAtLimit, e.expiryTime.isFinite := by decide +kernel
  have hquota : ∀ e ∈ copiesAtLimit, e.totalGB.isFinite := by decide +kernel
  have hlimit : ∀ e ∈ copiesAtLimit, e.limitIp.isFinite := by decide +kernel
  have htgId : ∀ e ∈ copiesAtLimit, e.tgId = .null := by
    rw [copiesAtLimit, List.forall_mem_map]
    intro copy _
    rfl
  intro e he
  exact ⟨hexpiry e he, hquota e he, hlimit e he, htgId e he ▸ .null⟩

/-- The last quota that is printed whole differs from the first that is not, and the zeros are one
value. -/
theorem values_printed_at_limit :
    (FieldValue.number (.ofInt (2 ^ 63))).Finite ∧
    (FieldValue.number (.ofInt (2 ^ 63 - 1024))).Finite ∧
    (FieldValue.number (.ofInt (2 ^ 63))).toValue.print ≠
      (FieldValue.number (.ofInt (2 ^ 63 - 1024))).toValue.print ∧
    (FieldValue.number .zero).toValue.print = (FieldValue.number Binary64.zero.neg).toValue.print ∧
    (∀ e ∈ copiesAtLimit, ∀ field : Field, (field.value e).Finite) ∧
    ∃ g ∈ (Report.ofEntries copiesAtLimit).groups, ∃ s ∈ g.subGroups,
      ∃ d ∈ s.comparison.fieldDiffs, d.field = .totalGB ∧ d.values.length = 3 ∧
        (d.values.map fun v => v.toValue.print).Nodup := by
  have habove : (FieldValue.number (.ofInt (2 ^ 63))).Finite := by
    change Binary64.isFinite _ = true
    decide +kernel
  have hbelow : (FieldValue.number (.ofInt (2 ^ 63 - 1024))).Finite := by
    change Binary64.isFinite _ = true
    decide +kernel
  have hzero : (FieldValue.number .zero).Finite := by
    change Binary64.isFinite _ = true
    decide +kernel
  have hneg : (FieldValue.number Binary64.zero.neg).Finite := by
    change Binary64.isFinite _ = true
    decide +kernel
  have hdiffer : ¬ (FieldValue.number (.ofInt (2 ^ 63))).Same
      (.number (.ofInt (2 ^ 63 - 1024))) := by decide +kernel
  have hfinite : ∀ e ∈ copiesAtLimit, ∀ field : Field, (field.value e).Finite :=
    fun e he field => (finite_copiesAtLimit e he).value field
  obtain ⟨g, hg, -, hs⟩ := Report.mem_listing.mp groupAtLimit_listed
  have hd : (⟨.totalGB, distinctValues .totalGB copiesAtLimit⟩ : FieldDiff) ∈
      groupAtLimit.comparison.fieldDiffs := by decide +kernel
  obtain ⟨hpairs, hreports⟩ := values_same_iff_printed_alike
  refine ⟨habove, hbelow, fun h => hdiffer ((hpairs _ _ habove hbelow).1.mpr h),
    (hpairs _ _ hzero hneg).1.mp (by decide +kernel), hfinite, g, hg, _, hs, _, hd, rfl, ?_,
    (hreports copiesAtLimit hfinite g hg _ hs _ hd).1⟩
  decide +kernel

end FleetDrift
