import FleetDrift.Proofs.Disagreement

/-! # What a comparison contains
A comparison names the compared fields on which two copies differ, and for each of them the values
that occur. Values are the same up to the sign of a zero and the blanks around a text, so of each
value it is the first occurrence that is listed. -/
namespace FleetDrift

def Diverges (members : List Entry) (field : Field) : Prop :=
  ∃ a ∈ members, ∃ b ∈ members, ¬ FieldValue.Same (field.value a) (field.value b)

instance (members : List Entry) : DecidablePred (Diverges members) := fun _ =>
  inferInstanceAs (Decidable (∃ a ∈ members, ∃ b ∈ members, _))

/-- The position of the first copy that has the value in a field. -/
def firstWith (field : Field) (members : List Entry) (v : FieldValue) : Nat :=
  members.findIdx fun e => (field.value e).Same v

/-- The different values of a field, each as its first copy has it, in the order of these copies. -/
structure Occurring (field : Field) (members : List Entry) (values : List FieldValue) : Prop where
  different : values.Pairwise fun v w => ¬ v.Same w
  complete : ∀ e ∈ members, ∃ v ∈ values, v.Same (field.value e)
  first : ∀ v ∈ values,
    (members.find? fun e => (field.value e).Same v).map field.value = some v
  inOrder : values.Pairwise fun v w => firstWith field members v < firstWith field members w

theorem occurring_distinctValues (field : Field) (members : List Entry) :
    Occurring field members (distinctValues field members) where
  different := List.pairwise_map.mp (firstByKey_keys_nodup FieldValue.key _)
  complete e he := key_mem_firstByKey FieldValue.key (List.mem_map_of_mem he)
  first v hv := by
    have hfind := find?_of_mem_firstByKey FieldValue.key hv
    rw [List.find?_map] at hfind
    exact hfind
  inOrder := by
    have horder :=
      firstByKey_pairwise_findIdx (fun e => some (field.value e)) FieldValue.key members
    simp only [List.filterMap_eq_map', Option.map_some, Option.some.injEq] at horder
    exact horder

/-- Credentials come before all else, the email comes last. -/
def ConflictType.priority : ConflictType → Nat
  | credentialMismatch => 0
  | expiryMismatch => 1
  | quotaMismatch => 2
  | enableMismatch => 3
  | limitIpMismatch => 4
  | flowMismatch => 5
  | subidMismatch => 6
  | emailMismatch => 7

namespace Comparison

theorem conflictTypes_pairwise_priority (c : Comparison) :
    c.conflictTypes.Pairwise fun t u => t.priority < u.priority := by
  have hall : ConflictType.all.Pairwise fun t u => t.priority < u.priority := by decide
  exact hall.filter _

theorem hasCredentialConflict_iff_mem {c : Comparison} :
    c.hasCredentialConflict = true ↔ .id ∈ c.diffFields ∨ .password ∈ c.diffFields := by
  have hcredential : ∀ f : Field, f.isCredential = true ↔ f = .id ∨ f = .password := by
    intro f
    cases f <;> simp [Field.isCredential]
  simp only [hasCredentialConflict, decide_eq_true_eq, mem_conflictTypes,
    ConflictType.ofField_eq_credentialMismatch_iff, hcredential]
  constructor
  · rintro ⟨f, hf, rfl | rfl⟩
    · exact .inl hf
    · exact .inr hf
  · rintro (hf | hf)
    · exact ⟨.id, hf, .inl rfl⟩
    · exact ⟨.password, hf, .inr rfl⟩

/-- All that a comparison of copies says, by what the copies have in the compared fields. -/
structure Exact (c : Comparison) (compared : List Field) (members : List Entry) : Prop where
  diffFields : c.diffFields = compared.filter (Diverges members)
  once : c.diffFields.Nodup
  aligned : c.fieldDiffs.map (·.field) = c.diffFields
  values : ∀ d ∈ c.fieldDiffs, Occurring d.field members d.values
  conflictTypes : ∀ t, t ∈ c.conflictTypes ↔ ∃ f ∈ c.diffFields, ConflictType.ofField f = t
  priority : c.conflictTypes.Pairwise fun t u => t.priority < u.priority
  hasConflict : c.hasConflict = true ↔ ∃ f ∈ compared, Diverges members f
  hasCredentialConflict :
    c.hasCredentialConflict = true ↔ .id ∈ c.diffFields ∨ .password ∈ c.diffFields

end Comparison

theorem diffFields_eq_filter_diverges (protocol : String) (kind : IdentityKind)
    (members : List Entry) : (compareCopies protocol kind members).diffFields =
      (comparableFields (.ofProtocol protocol) kind).filter (Diverges members) := by
  rw [diffFields_compareCopies]
  exact List.filter_congr fun _ _ => decide_eq_decide.mpr one_lt_length_distinctValues

theorem comparableFields_nodup (family : CredentialFamily) (kind : IdentityKind) :
    (comparableFields family kind).Nodup := by
  cases family <;> cases kind <;> decide

theorem compareCopies_exact (protocol : String) (kind : IdentityKind) (members : List Entry) :
    (compareCopies protocol kind members).Exact
      (comparableFields (.ofProtocol protocol) kind) members where
  diffFields := diffFields_eq_filter_diverges protocol kind members
  once := by
    rw [diffFields_eq_filter_diverges]
    exact (comparableFields_nodup _ kind).filter _
  aligned := rfl
  values d hd := by
    rw [(mem_fieldDiffs.mp hd).2.1]
    exact occurring_distinctValues d.field members
  conflictTypes _ := Comparison.mem_conflictTypes
  priority := Comparison.conflictTypes_pairwise_priority _
  hasConflict := by
    rw [hasConflict_iff]
    constructor
    · rintro ⟨a, ha, b, hb, f, hf, hne⟩
      exact ⟨f, hf, a, ha, b, hb, hne⟩
    · rintro ⟨f, hf, a, ha, b, hb, hne⟩
      exact ⟨a, ha, b, hb, f, hf, hne⟩
  hasCredentialConflict := Comparison.hasCredentialConflict_iff_mem

end FleetDrift
