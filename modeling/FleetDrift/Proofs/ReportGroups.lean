import FleetDrift.Proofs.ReportContents

/-! # The groups of a report
A group stands for one client. Its size counts all entries of the client, its sub-groups are those
listed for the client, and its severity is read off the sub-groups. -/
namespace FleetDrift

namespace Report

variable {entries : List Entry} {K : Identity} {g : Group}

theorem exists_hasIdentity (hg : g ∈ (ofEntries entries).groups) :
    ∃ e ∈ entries, e.HasIdentity g.identity := by
  obtain ⟨ig, hig, hof⟩ := mem_groups.mp hg
  rw [(Group.ofIdentityGroup?_spec hof).1]
  exact (mem_identityGroups.mp hig).1

theorem mem_subGroups_iff (hg : g ∈ (ofEntries entries).groups) {s : SubGroup} :
    s ∈ g.subGroups ↔ (g.identity, s) ∈ (ofEntries entries).listing := by
  rw [mem_listing]
  constructor
  · intro hs
    exact ⟨g, hg, rfl, hs⟩
  · rintro ⟨g', hg', hid, hs⟩
    rwa [← List.inj_on_of_nodup_map (groups_identities_nodup entries) hg' hg hid]

theorem size_eq (hg : g ∈ (ofEntries entries).groups) :
    g.size = (entries.filter fun e => e.HasIdentity g.identity).length := by
  obtain ⟨ig, hig, h⟩ := mem_groups.mp hg
  obtain ⟨-, rfl⟩ := Group.ofIdentityGroup?_eq_some_iff.mp h
  exact congrArg List.length (mem_identityGroups.mp hig).2

theorem severity_eq_high_iff (hg : g ∈ (ofEntries entries).groups) :
    g.severity = .high ↔ ∃ s ∈ g.subGroups, s.comparison.hasCredentialConflict = true := by
  obtain ⟨ig, -, h⟩ := mem_groups.mp hg
  obtain ⟨-, rfl⟩ := Group.ofIdentityGroup?_eq_some_iff.mp h
  simp

theorem mem_identities_iff : K ∈ (ofEntries entries).groups.map (·.identity) ↔
    ∃ p, (K, p) ∈ (ofEntries entries).headings := by
  simp only [headings, List.mem_map, Prod.mk.injEq, Prod.exists, mem_listing]
  constructor
  · rintro ⟨g, hg, rfl⟩
    obtain ⟨ig, -, h⟩ := mem_groups.mp hg
    obtain ⟨hne, rfl⟩ := Group.ofIdentityGroup?_eq_some_iff.mp h
    obtain ⟨s, hs⟩ := List.exists_mem_of_ne_nil _ hne
    exact ⟨s.protocol, _, s, ⟨_, hg, rfl, hs⟩, rfl, rfl⟩
  · rintro ⟨-, _, s, ⟨g, hg, rfl, -⟩, rfl, -⟩
    exact ⟨g, hg, rfl⟩

theorem mem_identityGroups_identities :
    K ∈ (identityGroups id entries).map (·.identity) ↔ ∃ e ∈ entries, e.HasIdentity K := by
  simp only [List.mem_map, mem_identityGroups, id_eq]
  constructor
  · rintro ⟨ig, ⟨he, -⟩, rfl⟩
    exact he
  · intro he
    exact ⟨⟨K, entries.filter fun e => e.HasIdentity K⟩, ⟨he, rfl⟩, rfl⟩

end Report

end FleetDrift
