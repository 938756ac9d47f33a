import FleetDrift.Proofs.PlanApplication

/-! # The credentials that a plan writes
A source qualifies by any credential of its family, and a plan writes all of them. A family with one
credential cannot lose it. Under an unknown protocol there are two, and the one that the source
leaves blank is blanked on the targets, since they are to agree with the source. -/
namespace FleetDrift

variable {family : CredentialFamily} {c d : Field}

namespace CredentialFamily

theorem eq_of_mem_of_known (known : family ≠ .unknown) (hc : c ∈ family.credentialFields)
    (hd : d ∈ family.credentialFields) : c = d := by
  cases family with
  | uuid | password => exact (List.mem_singleton.mp hc).trans (List.mem_singleton.mp hd).symm
  | unknown => exact absurd rfl known

end CredentialFamily

theorem Field.key_value_credential (h : c.isCredential = true) (e : Entry) :
    (c.value e).key = .text (e.nameText c) := by
  cases c with
  | id | password => simp only [value, FieldValue.ofText, FieldValue.key, Entry.nameText]
  | expiryTime | totalGB | enable | limitIp | flow | subId | email => cases h

/-- What is written into a credential field. -/
def ClientValues.credential (values : ClientValues) : Field → String
  | .id => values.id
  | .password => values.password
  | _ => ""

theorem ClientValues.credential_ofSource (h : c ∈ family.credentialFields) (e : Entry) :
    (ofSource family e).credential c = e.nameText c := by
  cases c with
  | id => exact id_ofSource h e
  | password => exact password_ofSource h e
  | expiryTime | totalGB | enable | limitIp | flow | subId | email =>
    cases CredentialFamily.isCredential_of_mem h

theorem SubGroup.hasCredential_iff {e : Entry} :
    hasCredential family e = true ↔ ∃ c ∈ family.credentialFields, e.nameText c ≠ "" := by
  simp only [hasCredential, List.any_eq_true, decide_eq_true_eq]
  constructor
  · rintro ⟨c, hc, hne⟩
    rw [Field.key_value_credential (CredentialFamily.isCredential_of_mem hc)] at hne
    exact ⟨c, hc, fun h => hne (congrArg FieldValue.text h)⟩
  · rintro ⟨c, hc, hne⟩
    refine ⟨c, hc, ?_⟩
    rw [Field.key_value_credential (CredentialFamily.isCredential_of_mem hc)]
    exact fun h => hne (FieldValue.text.inj h)

/-- A known family has no field beside the one that qualifies a source. -/
theorem SubGroup.nameText_ne_empty_of_known {e : Entry} (known : family ≠ .unknown)
    (he : hasCredential family e = true) (hc : c ∈ family.credentialFields) :
    e.nameText c ≠ "" := by
  obtain ⟨d, hd, hne⟩ := hasCredential_iff.mp he
  rwa [CredentialFamily.eq_of_mem_of_known known hc hd]

namespace Plan

/-- Some copy that the plan targets has a value in the field. -/
def Replaces (plan : Plan) (s : SubGroup) (c : Field) : Prop :=
  ∃ m ∈ s.members, m.locator ∈ plan.targets.map (·.locator) ∧ m.entry.nameText c ≠ ""

def Wipes (plan : Plan) (s : SubGroup) (c : Field) : Prop :=
  plan.Replaces s c ∧ plan.client.credential c = ""

structure WritesCredentials (plan : Plan) (s : SubGroup) : Prop where
  copied : ∀ c ∈ s.family.credentialFields, plan.client.credential c = plan.source.nameText c
  oneWritten : ∃ c ∈ s.family.credentialFields, plan.client.credential c ≠ ""
  wiped : ∀ c ∈ s.family.credentialFields, plan.Wipes s c ↔
    plan.Replaces s c ∧ s.family = .unknown ∧ plan.source.nameText c = ""

end Plan

variable {entries : List Entry} {K : Identity} {s : SubGroup} {basedOn : Fingerprint} {plan : Plan}

theorem SubGroup.credential_readyPlan {m : Member} {choice : SourceChoice}
    (h : (K, s) ∈ (Report.ofEntries entries).listing) (hc : c ∈ s.family.credentialFields) :
    (s.readyPlan m choice basedOn).client.credential c = m.entry.nameText c := by
  rw [readyPlan_client, ← Report.family_eq h]
  exact ClientValues.credential_ofSource hc m.entry

/-- A ready plan blanks a credential exactly where the protocol is unknown and the source has that
credential blank, and it always writes some credential. -/
theorem ready_plan_writes_credentials {g : Group} (hg : g ∈ (Report.ofEntries entries).groups)
    (hs : s ∈ g.subGroups) (ready : s.Yields (Report.ofEntries entries).fingerprint plan) :
    plan.WritesCredentials s := by
  have h := Report.mem_listing.mpr ⟨g, hg, rfl, hs⟩
  obtain ⟨locator, choice, hp⟩ := ready.exists_planWith
  obtain ⟨m, -, hcredential, -, rfl⟩ := SubGroup.planWith_ready hp
  rw [← Report.family_eq h] at hcredential
  constructor
  · intro c hc
    exact SubGroup.credential_readyPlan h hc
  · obtain ⟨c, hc, hne⟩ := SubGroup.hasCredential_iff.mp hcredential
    refine ⟨c, hc, ?_⟩
    rwa [SubGroup.credential_readyPlan h hc]
  · intro c hc
    refine and_congr_right fun _ => ?_
    rw [SubGroup.credential_readyPlan h hc, SubGroup.readyPlan_source]
    constructor
    · intro hblank
      refine ⟨?_, hblank⟩
      by_contra known
      exact SubGroup.nameText_ne_empty_of_known known hcredential hc hblank
    · exact And.right

def halfFilledCopies : List Entry :=
  [{ vlessCopy "a" "u1" true 1000 with protocol := "socks" },
   { vlessCopy "b" "u1" true 1000 with protocol := "socks", password := "pw" }]

def halfFilledGroup : SubGroup := .ofDisagreeing "socks" .email halfFilledCopies

theorem halfFilledGroup_listed :
    (⟨.email, "u@x.io"⟩, halfFilledGroup) ∈ (Report.ofEntries halfFilledCopies).listing :=
  Report.listing_of_one_client halfFilledCopies (by decide +kernel) (by decide +kernel)

theorem halfFilledGroup_ready (basedOn : Fingerprint) :
    ∃ plan, halfFilledGroup.plan "a|1|socks|u1|u@x.io" basedOn = .ok (.ready plan) := by
  have hm : Member.ofEntry halfFilledCopies[0] ∈ halfFilledGroup.members := List.mem_cons_self
  have hl : (Member.ofEntry halfFilledCopies[0]).locator = "a|1|socks|u1|u@x.io" := by
    decide +kernel
  rw [← hl]
  exact SubGroup.exists_ready_plan .explicit basedOn hm (by decide +kernel) (by decide +kernel)

theorem ready_plan_writes_credentials_half_filled :
    ∃ g ∈ (Report.ofEntries halfFilledCopies).groups, ∃ s ∈ g.subGroups, ∃ plan,
      s.Yields (Report.ofEntries halfFilledCopies).fingerprint plan ∧
      plan.WritesCredentials s := by
  obtain ⟨g, hg, -, hs⟩ := Report.mem_listing.mp halfFilledGroup_listed
  obtain ⟨plan, hp⟩ := halfFilledGroup_ready (Report.ofEntries halfFilledCopies).fingerprint
  exact ⟨g, hg, halfFilledGroup, hs, plan, .inr ⟨_, hp⟩,
    ready_plan_writes_credentials hg hs (.inr ⟨_, hp⟩)⟩

/-- Planned from the copy without a password, the other one loses its password. -/
theorem ready_plan_wipes_password :
    ∃ g ∈ (Report.ofEntries halfFilledCopies).groups, ∃ s ∈ g.subGroups, ∃ plan,
      s.Yields (Report.ofEntries halfFilledCopies).fingerprint plan ∧
      Field.password ∈ s.family.credentialFields ∧ plan.Wipes s .password := by
  obtain ⟨g, hg, -, hs⟩ := Report.mem_listing.mp halfFilledGroup_listed
  obtain ⟨plan, hp⟩ := halfFilledGroup_ready (Report.ofEntries halfFilledCopies).fingerprint
  obtain ⟨m, hm, -, -, rfl⟩ := SubGroup.planWith_ready hp
  obtain ⟨hmem, hl⟩ := SubGroup.member?_spec hm
  have hpassword : Field.password ∈ halfFilledGroup.family.credentialFields := by decide +kernel
  have hblank : ∀ m ∈ halfFilledGroup.members,
      m.locator = "a|1|socks|u1|u@x.io" → m.entry.nameText .password = "" := by decide +kernel
  have hother : Member.ofEntry halfFilledCopies[1] ∈ halfFilledGroup.members :=
    List.mem_cons_of_mem _ List.mem_cons_self
  refine ⟨g, hg, halfFilledGroup, hs, _, .inr ⟨_, hp⟩, hpassword, ?_, ?_⟩
  · refine ⟨_, hother, ?_, by decide +kernel⟩
    rw [SubGroup.readyPlan_targets, hl]
    exact SubGroup.mem_targetsBeside_locators.mpr ⟨by decide +kernel, _, hother, rfl⟩
  · rw [SubGroup.credential_readyPlan halfFilledGroup_listed hpassword]
    exact hblank m hmem hl

end FleetDrift
