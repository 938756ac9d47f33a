import FleetDrift.Proofs.Planning
import FleetDrift.Proofs.ProtocolFamilies

/-! # Families within a sub-group
A sub-group has the family of its protocol, and so has each of its members, but for those in whose
tag the Kelvin sign stands for a `k`. Their family is unknown, so their `id` names them before their
password does. -/
namespace FleetDrift

namespace Entry

variable {e : Entry}

/-- The orders of the two families agree on what names the entry. -/
def NamedAlike (e : Entry) : Prop :=
  e.nameText .id = "" ∨ e.nameText .password = "" ∨ e.nameText .id = e.nameText .password

instance : DecidablePred NamedAlike := fun _ => inferInstanceAs (Decidable (_ ∨ _ ∨ _))

theorem nameIn_unknown_eq_nameIn_password_iff :
    e.nameIn .unknown = e.nameIn .password ↔ e.NamedAlike := by
  by_cases hid : e.nameText .id = "" <;> by_cases hpassword : e.nameText .password = ""
  · simp [nameIn, CredentialFamily.identifierOrder, NamedAlike, hid, hpassword]
  · simp [nameIn, CredentialFamily.identifierOrder, NamedAlike, hid, hpassword]
  · simp [nameIn, CredentialFamily.identifierOrder, NamedAlike, hid, hpassword]
  · rw [nameIn_of_first rfl hid, nameIn_of_first rfl hpassword]
    simp only [NamedAlike, hid, hpassword, false_or]

end Entry

variable {entries : List Entry} {K : Identity} {s : SubGroup} {m : Member}

namespace Report

theorem family_member_iff (h : (K, s) ∈ (ofEntries entries).listing) (hm : m ∈ s.members) :
    m.entry.family = s.family ↔ ¬ m.entry.KelvinSpelled := by
  rw [family_eq h, ← (hasIdentity_of_mem h hm).2]
  exact Entry.family_eq_iff

theorem identifier_member_iff (h : (K, s) ∈ (ofEntries entries).listing) (hm : m ∈ s.members) :
    m.entry.identifier = m.entry.nameIn s.family ↔
      (m.entry.KelvinSpelled → m.entry.NamedAlike) := by
  rw [Entry.identifier_eq_nameIn]
  by_cases hk : m.entry.KelvinSpelled
  · have hfamily : s.family = .password := by
      rw [family_eq h, ← (hasIdentity_of_mem h hm).2, hk.ofProtocol_eq]
    rw [hk.family_eq, hfamily, Entry.nameIn_unknown_eq_nameIn_password_iff]
    exact ⟨fun hn _ => hn, fun hn => hn hk⟩
  · rw [(family_member_iff h hm).mpr hk]
    exact ⟨fun _ hc => absurd hc hk, fun _ => rfl⟩

end Report

/-- A member is of the family of its sub-group, and named in the order of that family, unless its
tag has the Kelvin sign. -/
theorem member_of_subGroup_family {g : Group} (hg : g ∈ (Report.ofEntries entries).groups)
    (hs : s ∈ g.subGroups) (hm : m ∈ s.members) :
    (m.entry.family = s.family ↔ ¬ m.entry.KelvinSpelled) ∧
    (m.entry.identifier = m.entry.nameIn s.family ↔
      (m.entry.KelvinSpelled → m.entry.NamedAlike)) := by
  have h := Report.mem_listing.mpr ⟨g, hg, rfl, hs⟩
  exact ⟨Report.family_member_iff h hm, Report.identifier_member_iff h hm⟩

def passwordCopy (server protocol id password : String) : Entry :=
  { vlessCopy server id true 1000 with protocol := protocol, password := password }

/-- The second copy has the Kelvin sign in its tag. -/
def mixedCopies : List Entry :=
  [passwordCopy "a" "ShadowSocks" "" "x", passwordCopy "b" "shadowsoc\u212as" "y" "q"]

def mixedGroup : SubGroup := .ofDisagreeing "shadowsocks" .email mixedCopies

theorem mixedGroup_listed :
    (⟨.email, "u@x.io"⟩, mixedGroup) ∈ (Report.ofEntries mixedCopies).listing :=
  Report.listing_of_one_client mixedCopies (by decide +kernel) (by decide +kernel)

theorem member_of_subGroup_family_mixed :
    ∃ g ∈ (Report.ofEntries mixedCopies).groups, ∃ s ∈ g.subGroups, ∃ m ∈ s.members,
      m.entry.protocol = "ShadowSocks" ∧ m.entry.family = s.family ∧
        m.entry.identifier = m.entry.nameIn s.family := by
  obtain ⟨g, hg, -, hs⟩ := Report.mem_listing.mp mixedGroup_listed
  have hm : Member.ofEntry mixedCopies[0] ∈ mixedGroup.members := List.mem_cons_self
  have plain : ¬ (Member.ofEntry mixedCopies[0]).entry.KelvinSpelled := by decide +kernel
  obtain ⟨hfamily, hname⟩ := member_of_subGroup_family hg hs hm
  exact ⟨g, hg, mixedGroup, hs, _, hm, rfl, hfamily.mpr plain,
    hname.mpr fun hk => absurd hk plain⟩

/-- It is compared and planned by its password, and located by its `id`. -/
theorem member_of_other_family :
    ∃ g ∈ (Report.ofEntries mixedCopies).groups, ∃ s ∈ g.subGroups, ∃ m ∈ s.members,
      m.entry.family ≠ s.family ∧ m.entry.identifier ≠ m.entry.nameIn s.family := by
  obtain ⟨g, hg, -, hs⟩ := Report.mem_listing.mp mixedGroup_listed
  have hm : Member.ofEntry mixedCopies[1] ∈ mixedGroup.members :=
    List.mem_cons_of_mem _ List.mem_cons_self
  refine ⟨g, hg, mixedGroup, hs, _, hm, ?_, ?_⟩
  · decide +kernel
  · decide +kernel

end FleetDrift
