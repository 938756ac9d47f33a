import FleetDrift.Proofs.Blanks
import FleetDrift.Proofs.Planning

/-! # Applying a plan
A plan is applied by writing its values into every entry that it targets. Overwritten copies take
the source's value in each compared field, so the sub-group of the plan is gone from the next
report, whatever identities and locators the overwritten entries have by then. -/
namespace FleetDrift

open Text (trim)

/-- The entry with the plan's values; a credential that the family does not use is kept. -/
def Entry.overwrite (e : Entry) (family : CredentialFamily) (values : ClientValues) : Entry :=
  { e with
    id := if Field.id ∈ family.credentialFields then values.id else e.id
    password := if Field.password ∈ family.credentialFields then values.password else e.password
    expiryTime := values.expiryTime
    totalGB := values.totalGB
    enable := some values.enable
    limitIp := values.limitIp
    flow := values.flow
    subId := values.subId
    email := some values.email }

def Plan.apply (plan : Plan) (family : CredentialFamily) (entries : List Entry) : List Entry :=
  entries.map fun e =>
    if e.locator ∈ plan.targets.map (·.locator) then e.overwrite family plan.client else e

theorem FieldValue.ofText_trim (s : String) : FieldValue.ofText (trim s) = FieldValue.ofText s := by
  simp [ofText]

theorem ClientValues.id_ofSource {family : CredentialFamily}
    (h : Field.id ∈ family.credentialFields) (e : Entry) :
    (ofSource family e).id = trim e.id := by
  cases family <;> simp_all [CredentialFamily.credentialFields, ofSource]

theorem ClientValues.password_ofSource {family : CredentialFamily}
    (h : Field.password ∈ family.credentialFields) (e : Entry) :
    (ofSource family e).password = trim e.password := by
  cases family <;> simp_all [CredentialFamily.credentialFields, ofSource]

/-- An overwritten entry has the source's value in every field that is compared. -/
theorem Entry.value_overwrite {family : CredentialFamily} {kind : IdentityKind} {field : Field}
    (h : field ∈ comparableFields family kind) (e source : Entry) :
    field.value (e.overwrite family (.ofSource family source)) = field.value source := by
  cases field with
  | id =>
    have hm := mem_credentialFields h rfl
    simp only [Field.value, overwrite, if_pos hm, ClientValues.id_ofSource hm,
      FieldValue.ofText_trim]
  | password =>
    have hm := mem_credentialFields h rfl
    simp only [Field.value, overwrite, if_pos hm, ClientValues.password_ofSource hm,
      FieldValue.ofText_trim]
  | enable =>
    simp only [Field.value, overwrite, ClientValues.ofSource]
    simp [isEnabled]
  | flow => exact FieldValue.ofText_trim source.flow
  | subId => exact FieldValue.ofText_trim source.subId
  | email => exact FieldValue.ofText_trim (source.email.getD "")
  | expiryTime | totalGB | limitIp => rfl

variable {entries : List Entry} {K : Identity} {s : SubGroup} {m : Member}
  {choice : SourceChoice} {basedOn : Fingerprint}

/-- Whoever is a copy after the plan was applied has the source's values: a target was overwritten,
and what is no target is the source itself. -/
theorem value_applied_copy (distinct : (entries.map Entry.locator).Nodup)
    (h : (K, s) ∈ (Report.ofEntries entries).listing) (hm : m ∈ s.members) {c : Entry}
    (hc : c ∈ copiesOf ((s.readyPlan m choice basedOn).apply s.family entries) K s.protocol)
    {field : Field} (hf : field ∈ comparableFields s.family K.kind) :
    field.value c = field.value m.entry := by
  obtain ⟨hmem, hK, hp⟩ := mem_copiesOf.mp hc
  obtain ⟨e, he, rfl⟩ := List.mem_map.mp hmem
  obtain ⟨hcopy, hloc⟩ := (Report.mem_members_iff h).mp hm
  rw [SubGroup.readyPlan_targets, SubGroup.readyPlan_client, ← Report.family_eq h] at hK hp ⊢
  by_cases ht : e.locator ∈ (s.targetsBeside m.locator).map (·.locator)
  · rw [if_pos ht]
    exact Entry.value_overwrite hf e m.entry
  · rw [if_neg ht] at hK hp ⊢
    have hmember : Member.ofEntry e ∈ s.members :=
      (Report.mem_members_iff h).mpr ⟨mem_copiesOf.mpr ⟨he, hK, hp⟩, rfl⟩
    have hsame : e.locator = m.entry.locator := by
      by_contra hne
      rw [← hloc] at hne
      exact ht (SubGroup.mem_targetsBeside_locators.mpr ⟨hne, _, hmember, rfl⟩)
    rw [List.inj_on_of_nodup_map distinct he (mem_copiesOf.mp hcopy).1 hsame]

/-- Carrying out a plan settles its sub-group, whichever copy the plan was made from. -/
theorem applied_plan_converges (distinct : (entries.map Entry.locator).Nodup) {g : Group}
    (hg : g ∈ (Report.ofEntries entries).groups) (hs : s ∈ g.subGroups) {plan : Plan}
    (ready : s.Yields (Report.ofEntries entries).fingerprint plan) :
    (g.identity, s.protocol) ∉ (Report.ofEntries (plan.apply s.family entries)).headings := by
  intro hh
  have h := Report.mem_listing.mpr ⟨g, hg, rfl, hs⟩
  obtain ⟨m, hm, choice, rfl⟩ := ready.exists_source
  obtain ⟨a, ha, b, hb, field, hf, hne⟩ := Report.mem_headings_iff.mp hh
  rw [← Report.family_eq h] at hf
  apply hne
  rw [value_applied_copy distinct h hm ha hf, value_applied_copy distinct h hm hb hf]
  rfl

theorem applied_plan_converges_drifting :
    (driftingCopies.map Entry.locator).Nodup ∧
    ∃ g ∈ (Report.ofEntries driftingCopies).groups, ∃ s ∈ g.subGroups, ∃ plan,
      s.Yields (Report.ofEntries driftingCopies).fingerprint plan ∧
      (g.identity, s.protocol) ∉
        (Report.ofEntries (plan.apply s.family driftingCopies)).headings := by
  have distinct : (driftingCopies.map Entry.locator).Nodup := by decide +kernel
  obtain ⟨g, hg, -, hs⟩ := Report.mem_listing.mp driftingGroup_listed
  obtain ⟨plan, hp⟩ := driftingGroup_ready .explicit (Report.ofEntries driftingCopies).fingerprint
    (List.mem_cons_self (a := vlessCopy "a" "u1" true 1000))
  exact ⟨distinct, g, hg, driftingGroup, hs, plan, .inr ⟨_, hp⟩,
    applied_plan_converges distinct hg hs (.inr ⟨_, hp⟩)⟩

end FleetDrift
