import FleetDrift.Comparison
import FleetDrift.Proofs.Classes

/-! # Disagreement of copies
A comparison finds a conflict exactly when two of the compared copies have different values in a
field that is compared. -/
namespace FleetDrift

/-- The two copies differ in a field that is compared for their family and kind of identity. -/
def Disagree (family : CredentialFamily) (kind : IdentityKind) (a b : Entry) : Prop :=
  ∃ field ∈ comparableFields family kind, ¬ FieldValue.Same (field.value a) (field.value b)

instance (family : CredentialFamily) (kind : IdentityKind) (a b : Entry) :
    Decidable (Disagree family kind a b) :=
  inferInstanceAs (Decidable (∃ field ∈ _, _))

theorem one_lt_length_distinctValues {field : Field} {members : List Entry} :
    1 < (distinctValues field members).length ↔
      ∃ a ∈ members, ∃ b ∈ members, ¬ FieldValue.Same (field.value a) (field.value b) := by
  rw [distinctValues, one_lt_length_firstByKey]
  simp [FieldValue.Same]

theorem mem_fieldDiffs {protocol : String} {kind : IdentityKind} {members : List Entry}
    {d : FieldDiff} : d ∈ (compareCopies protocol kind members).fieldDiffs ↔
      d.field ∈ comparableFields (.ofProtocol protocol) kind ∧
      d.values = distinctValues d.field members ∧ 1 < d.values.length := by
  simp only [compareCopies, List.mem_filter, List.mem_map, decide_eq_true_eq]
  constructor
  · rintro ⟨⟨field, hf, rfl⟩, hl⟩
    exact ⟨hf, rfl, hl⟩
  · rintro ⟨hf, hv, hl⟩
    exact ⟨⟨d.field, hf, by rw [← hv]⟩, hl⟩

theorem diffFields_compareCopies (protocol : String) (kind : IdentityKind) (members : List Entry) :
    (compareCopies protocol kind members).diffFields =
      (comparableFields (.ofProtocol protocol) kind).filter fun field =>
        1 < (distinctValues field members).length := by
  simp [Comparison.diffFields, compareCopies, List.filter_map, Function.comp_def]

theorem mem_diffFields {protocol : String} {kind : IdentityKind} {members : List Entry}
    {field : Field} : field ∈ (compareCopies protocol kind members).diffFields ↔
      field ∈ comparableFields (.ofProtocol protocol) kind ∧
        ∃ a ∈ members, ∃ b ∈ members, ¬ FieldValue.Same (field.value a) (field.value b) := by
  rw [diffFields_compareCopies, List.mem_filter, decide_eq_true_eq, one_lt_length_distinctValues]

theorem Comparison.mem_conflictTypes {c : Comparison} {t : ConflictType} :
    t ∈ c.conflictTypes ↔ ∃ field ∈ c.diffFields, ConflictType.ofField field = t := by
  have hall : t ∈ ConflictType.all := by cases t <;> decide
  simp [conflictTypes, hall]

theorem CredentialFamily.isCredential_of_mem {family : CredentialFamily} {field : Field}
    (h : field ∈ family.credentialFields) : field.isCredential = true := by
  cases family <;> cases field <;> simp_all [credentialFields, Field.isCredential]

theorem mem_credentialFields {family : CredentialFamily} {kind : IdentityKind} {field : Field}
    (h : field ∈ comparableFields family kind) (hc : field.isCredential = true) :
    field ∈ family.credentialFields := by
  cases kind <;> cases field <;> simp_all [comparableFields, Field.common, Field.isCredential]

theorem ConflictType.ofField_eq_credentialMismatch_iff {field : Field} :
    ofField field = .credentialMismatch ↔ field.isCredential = true := by
  cases field <;> simp [ofField, Field.isCredential]

/-- Copies have a credential conflict when two of them differ in a credential of the family. -/
theorem hasCredentialConflict_iff {protocol : String} {kind : IdentityKind}
    {members : List Entry} : (compareCopies protocol kind members).hasCredentialConflict = true ↔
      ∃ a ∈ members, ∃ b ∈ members, ∃ c ∈ (CredentialFamily.ofProtocol protocol).credentialFields,
        ¬ FieldValue.Same (c.value a) (c.value b) := by
  simp only [Comparison.hasCredentialConflict, decide_eq_true_eq, Comparison.mem_conflictTypes,
    mem_diffFields, ConflictType.ofField_eq_credentialMismatch_iff]
  constructor
  · rintro ⟨c, ⟨hc, a, ha, b, hb, hne⟩, hcredential⟩
    exact ⟨a, ha, b, hb, c, mem_credentialFields hc hcredential, hne⟩
  · rintro ⟨a, ha, b, hb, c, hc, hne⟩
    have hcompared : c ∈ comparableFields (.ofProtocol protocol) kind := by
      simp [comparableFields, hc]
    exact ⟨c, ⟨hcompared, a, ha, b, hb, hne⟩, CredentialFamily.isCredential_of_mem hc⟩

theorem hasConflict_iff {protocol : String} {kind : IdentityKind} {members : List Entry} :
    (compareCopies protocol kind members).hasConflict = true ↔
      ∃ a ∈ members, ∃ b ∈ members, Disagree (.ofProtocol protocol) kind a b := by
  have hd : (compareCopies protocol kind members).hasConflict = true ↔
      ∃ d, d ∈ (compareCopies protocol kind members).fieldDiffs := by
    simp [Comparison.hasConflict, List.eq_nil_iff_forall_not_mem]
  rw [hd]
  constructor
  · rintro ⟨d, h⟩
    obtain ⟨hf, hv, hl⟩ := mem_fieldDiffs.mp h
    rw [hv] at hl
    obtain ⟨a, ha, b, hb, hne⟩ := one_lt_length_distinctValues.mp hl
    exact ⟨a, ha, b, hb, d.field, hf, hne⟩
  · rintro ⟨a, ha, b, hb, field, hf, hne⟩
    refine ⟨⟨field, distinctValues field members⟩, mem_fieldDiffs.mpr ⟨hf, rfl, ?_⟩⟩
    exact one_lt_length_distinctValues.mpr ⟨a, ha, b, hb, hne⟩

theorem Disagree.ne {family : CredentialFamily} {kind : IdentityKind} {a b : Entry}
    (h : Disagree family kind a b) : a ≠ b := by
  rintro rfl
  obtain ⟨field, -, hne⟩ := h
  exact hne rfl

end FleetDrift
