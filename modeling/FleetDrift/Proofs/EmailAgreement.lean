import FleetDrift.Proofs.Identifiers
import FleetDrift.Proofs.Planning
import FleetDrift.Proofs.ReportContents

/-! # Emails of reported copies
Copies that are grouped by email are not compared by it. Copies that are grouped by an identifier
have blank emails, however the blank is spelled, and these compare as one empty text. So a report
never names the email as a difference. -/
namespace FleetDrift

variable {entries : List Entry} {K : Identity} {e : Entry} {s : SubGroup} {g : Group}

theorem email_not_mem_comparableFields (family : CredentialFamily) :
    Field.email ∉ comparableFields family .email := by
  cases family <;> decide

theorem Entry.value_email (e : Entry) : Field.email.value e = .text (e.nameText .email) := rfl

theorem Entry.HasIdentity.value_email_eq_empty (h : e.HasIdentity K) (hk : K.kind = .identifier) :
    Field.email.value e = .text "" := by
  have hnormalized : e.normalizedEmail = "" := by
    rw [h.normalizedEmail_eq, hk]
    rfl
  rw [Entry.value_email, Entry.normalizedEmail_eq_empty_iff.mp hnormalized]

namespace Report

theorem value_email_of_mem (h : (K, s) ∈ (ofEntries entries).listing) (hk : K.kind = .identifier)
    {m : Member} (hm : m ∈ s.members) : Field.email.value m.entry = .text "" :=
  (hasIdentity_of_mem h hm).1.value_email_eq_empty hk

theorem email_not_mem_diffFields (h : (K, s) ∈ (ofEntries entries).listing) :
    Field.email ∉ s.comparison.diffFields := by
  intro hdiff
  rw [comparison_eq h, mem_diffFields] at hdiff
  obtain ⟨hcompared, a, ha, b, hb, hne⟩ := hdiff
  cases hk : K.kind with
  | email =>
    rw [hk] at hcompared
    exact email_not_mem_comparableFields _ hcompared
  | identifier =>
    have hblank : ∀ e ∈ s.copies, Field.email.value e = .text "" := by
      intro e he
      rw [copies_eq h] at he
      exact (mem_copiesOf.mp he).2.1.value_email_eq_empty hk
    rw [hblank a ha, hblank b hb] at hne
    exact hne rfl

end Report

/-- A sub-group never differs in the email, as it is not compared or blank in every copy. -/
theorem email_never_differs (hg : g ∈ (Report.ofEntries entries).groups) (hs : s ∈ g.subGroups) :
    .email ∉ s.comparison.diffFields ∧ .emailMismatch ∉ s.comparison.conflictTypes ∧
    (g.identity.kind = .email → .email ∉ comparableFields s.family g.identity.kind) ∧
    (g.identity.kind = .identifier → ∀ m ∈ s.members, Field.email.value m.entry = .text "") := by
  have h := Report.mem_listing.mpr ⟨g, hg, rfl, hs⟩
  have hdiff := Report.email_not_mem_diffFields h
  have honly : ∀ {field}, ConflictType.ofField field = .emailMismatch → field = .email := by
    intro field hfield
    cases field <;> first | rfl | cases hfield
  refine ⟨hdiff, ?_, ?_, ?_⟩
  · intro hconflict
    obtain ⟨field, hfield, htype⟩ := Comparison.mem_conflictTypes.mp hconflict
    exact hdiff (honly htype ▸ hfield)
  · intro hk
    rw [hk]
    exact email_not_mem_comparableFields s.family
  · intro hk m hm
    exact Report.value_email_of_mem h hk hm

def blankEmails : List Entry :=
  [{ vlessCopy "a" "u1" true 1000 with email := none },
    { vlessCopy "b" "u1" true 2000 with email := some "" },
    { vlessCopy "c" "u1" true 1000 with email := some "\u3000\t" }]

def blankEmailsGroup : SubGroup := .ofDisagreeing "vless" .identifier blankEmails

theorem blankEmailsGroup_listed : (⟨.identifier, "vless:u1"⟩, blankEmailsGroup) ∈
    (Report.ofEntries blankEmails).listing :=
  Report.listing_of_one_client blankEmails (by decide +kernel) (by decide +kernel)

theorem email_never_differs_blank :
    ∃ g ∈ (Report.ofEntries blankEmails).groups, g.identity.kind = .identifier ∧
      ∃ s ∈ g.subGroups, s.comparison.diffFields = [.expiryTime] ∧
        .email ∉ s.comparison.diffFields ∧ .emailMismatch ∉ s.comparison.conflictTypes ∧
        ∀ m ∈ s.members, Field.email.value m.entry = .text "" := by
  obtain ⟨g, hg, hid, hs⟩ := Report.mem_listing.mp blankEmailsGroup_listed
  obtain ⟨hdiff, hconflict, -, hblank⟩ := email_never_differs hg hs
  have hk : g.identity.kind = .identifier := by rw [hid]
  exact ⟨g, hg, hk, _, hs, by decide +kernel, hdiff, hconflict, hblank hk⟩

end FleetDrift
