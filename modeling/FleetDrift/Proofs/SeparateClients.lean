import FleetDrift.Proofs.Planning
import FleetDrift.Proofs.ReportGroups

/-! # Clients apart in a report
The group of a client is made of the client's own entries. A report of these alone has the same
group and no other, so a partial scan can be trusted for the clients that it covers. -/
namespace FleetDrift

def entriesOf (entries : List Entry) (K : Identity) : List Entry :=
  entries.filter fun e => e.HasIdentity K

variable {entries : List Entry} {K : Identity}

@[simp] theorem mem_entriesOf {e : Entry} :
    e ∈ entriesOf entries K ↔ e ∈ entries ∧ e.HasIdentity K := by
  simp [entriesOf]

theorem entriesOf_entriesOf (entries : List Entry) (K : Identity) :
    entriesOf (entriesOf entries K) K = entriesOf entries K := by
  simp [entriesOf, List.filter_filter]

/-- An entry has one identity, so the entries of one client make one identity group. -/
theorem mem_identityGroups_entriesOf {ig : IdentityGroup Entry} :
    ig ∈ identityGroups id (entriesOf entries K) ↔
      ig ∈ identityGroups id entries ∧ ig.identity = K := by
  constructor
  · intro h
    obtain ⟨⟨e, he, hid⟩, hmembers⟩ := mem_identityGroups.mp h
    obtain ⟨hmem, hK⟩ := mem_entriesOf.mp he
    obtain rfl : ig.identity = K := Entry.HasIdentity.unique hid hK
    refine ⟨mem_identityGroups.mpr ⟨⟨e, hmem, hK⟩, ?_⟩, rfl⟩
    exact hmembers.trans (entriesOf_entriesOf entries ig.identity)
  · rintro ⟨h, rfl⟩
    obtain ⟨⟨e, he, hid⟩, hmembers⟩ := mem_identityGroups.mp h
    refine mem_identityGroups.mpr ⟨⟨e, mem_entriesOf.mpr ⟨he, hid⟩, hid⟩, ?_⟩
    exact hmembers.trans (entriesOf_entriesOf entries ig.identity).symm

namespace Report

theorem mem_groups_entriesOf {g : Group} : g ∈ (ofEntries (entriesOf entries K)).groups ↔
    g ∈ (ofEntries entries).groups ∧ g.identity = K := by
  rw [mem_groups, mem_groups]
  constructor
  · rintro ⟨ig, hig, hof⟩
    obtain ⟨hmem, hid⟩ := mem_identityGroups_entriesOf.mp hig
    exact ⟨⟨ig, hmem, hof⟩, (Group.ofIdentityGroup?_spec hof).1.trans hid⟩
  · rintro ⟨⟨ig, hig, hof⟩, hid⟩
    rw [(Group.ofIdentityGroup?_spec hof).1] at hid
    exact ⟨ig, mem_identityGroups_entriesOf.mpr ⟨hig, hid⟩, hof⟩

/-- A report of the entries of one client has the client's group as it is in the whole report, or
nothing if the client has no group there. -/
theorem group_depends_on_own_entries (entries : List Entry) :
    (∀ g ∈ (ofEntries entries).groups, (ofEntries (entriesOf entries g.identity)).groups = [g]) ∧
      ∀ K, K ∉ (ofEntries entries).groups.map (·.identity) →
        (ofEntries (entriesOf entries K)).isClean = true := by
  constructor
  · intro g hg
    have hown : g ∈ (ofEntries (entriesOf entries g.identity)).groups :=
      mem_groups_entriesOf.mpr ⟨hg, rfl⟩
    apply eq_singleton_of_keys_nodup (groups_identities_nodup _) hown
    intro h hh
    exact (mem_groups_entriesOf.mp hh).2
  · intro K hK
    rw [isClean, List.isEmpty_iff, List.eq_nil_iff_forall_not_mem]
    intro g hg
    obtain ⟨hmem, rfl⟩ := mem_groups_entriesOf.mp hg
    exact hK (List.mem_map_of_mem hmem)

def interleavedCopies : List Entry :=
  [{ vlessCopy "a" "v1" true 0 with email := some "v@x.io" }] ++ driftingCopies ++
    [{ vlessCopy "b" "v1" true 0 with email := some "V@x.io" }]

theorem interleavedCopies_identities :
    (ofEntries interleavedCopies).groups.map (·.identity) = [⟨.email, "u@x.io"⟩] := by
  have hunsorted : ((identityGroups id interleavedCopies).filterMap Group.ofIdentityGroup?).map
      (·.identity) = [⟨.email, "u@x.io"⟩] := by decide +kernel
  rw [← List.perm_singleton, ← hunsorted]
  exact (List.mergeSort_perm _ Group.precedes).map _

theorem own_entries_interleaved :
    (∃ g ∈ (ofEntries interleavedCopies).groups,
      (ofEntries (entriesOf interleavedCopies g.identity)).groups = [g]) ∧
    (⟨.email, "v@x.io"⟩ : Identity) ∉ (ofEntries interleavedCopies).groups.map (·.identity) ∧
      (ofEntries (entriesOf interleavedCopies ⟨.email, "v@x.io"⟩)).isClean = true := by
  obtain ⟨hlisted, hclean⟩ := group_depends_on_own_entries interleavedCopies
  have hmem : (⟨.email, "u@x.io"⟩ : Identity) ∈
      (ofEntries interleavedCopies).groups.map (·.identity) := by
    rw [interleavedCopies_identities]
    exact List.mem_cons_self
  have habsent : (⟨.email, "v@x.io"⟩ : Identity) ∉
      (ofEntries interleavedCopies).groups.map (·.identity) := by
    rw [interleavedCopies_identities]
    decide
  obtain ⟨g, hg, -⟩ := List.mem_map.mp hmem
  exact ⟨⟨g, hg, hlisted g hg⟩, habsent, hclean _ habsent⟩

end Report

end FleetDrift
