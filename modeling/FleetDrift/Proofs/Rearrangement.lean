import FleetDrift.Proofs.Correspondence
import FleetDrift.Proofs.Planning
import FleetDrift.Proofs.Ranking
import FleetDrift.Proofs.ReportGroups
import Mathlib.Data.List.Perm.Basic

/-! # Reports of rearranged entries
Which copies are in conflict, and over what, does not depend on the order they are listed in. The
order shows only where it is said to: in the order of members, values, protocols and groups of one
size, and among copies of one score. -/
namespace FleetDrift

variable {entries entries' cs ds : List Entry} {K : Identity} {p : String}

theorem firstByKey_keys_perm {α κ : Type} [DecidableEq κ] (key : α → κ) {xs ys : List α}
    (h : xs.Perm ys) : ((firstByKey key xs).map key).Perm ((firstByKey key ys).map key) := by
  have hx := firstByKey_keys_nodup key xs
  have hy := firstByKey_keys_nodup key ys
  rw [List.perm_ext_iff_of_nodup hx hy]
  intro k
  rw [mem_firstByKey_keys, mem_firstByKey_keys, (h.map key).mem_iff]

structure FieldDiff.Rearranged (x y : FieldDiff) : Prop where
  field : x.field = y.field
  values : (x.values.map FieldValue.key).Perm (y.values.map FieldValue.key)

theorem compareCopies_rearranged (h : cs.Perm ds) (p : String) (kind : IdentityKind) :
    List.Forall₂ FieldDiff.Rearranged (compareCopies p kind cs).fieldDiffs
      (compareCopies p kind ds).fieldDiffs := by
  apply rel_compareCopies
  · exact fun field => ⟨rfl, firstByKey_keys_perm FieldValue.key (h.map field.value)⟩
  · intro x y hxy
    simpa using hxy.values.length_eq

structure SubGroup.Top (s : SubGroup) (a : Entry) : Prop where
  ranking : (rank s.copies).head? = some a
  candidate : s.ranked.head? = some (.ofEntry 0 a)

theorem SubGroup.top_ofDisagreeing {kind : IdentityKind} {a : Entry}
    (h : (rank cs).head? = some a) : (ofDisagreeing p kind cs).Top a where
  ranking := by rw [copies_ofDisagreeing, h]
  candidate := by rw [ranked_ofDisagreeing, List.head?_map, List.head?_zipIdx, h]; rfl

/-- The same copies in some order with the same conflicts. The best copies have one score, and they
are one copy unless others have that score as well. -/
structure SubGroup.Rearranged (s t : SubGroup) : Prop where
  protocol : s.protocol = t.protocol
  family : s.family = t.family
  size : s.size = t.size
  members : s.members.Perm t.members
  diffFields : s.comparison.diffFields = t.comparison.diffFields
  fieldDiffs : List.Forall₂ FieldDiff.Rearranged s.comparison.fieldDiffs t.comparison.fieldDiffs
  conflictTypes : s.comparison.conflictTypes = t.comparison.conflictTypes
  hasCredentialConflict :
    s.comparison.hasCredentialConflict = t.comparison.hasCredentialConflict
  top : ∃ a b, s.Top a ∧ t.Top b ∧ a.score = b.score ∧
    ((∀ e ∈ s.copies, e.score = a.score → e = a) → b = a)

theorem exists_tops_of_perm (h : cs.Perm ds) (hne : cs ≠ []) :
    ∃ a b, (rank cs).head? = some a ∧ (rank ds).head? = some b ∧ b ∈ cs ∧ a.score = b.score := by
  have hne' : ds ≠ [] := fun hd => hne (List.perm_nil.mp (hd ▸ h))
  obtain ⟨a, ha⟩ := exists_head?_rankBy Entry.score hne
  obtain ⟨b, hb⟩ := exists_head?_rankBy Entry.score hne'
  have hac := mem_of_head?_rankBy ha
  have hbc := h.mem_iff.mpr (mem_of_head?_rankBy hb)
  -- each is greatest among the same copies
  have hle : b.score ≤ a.score := le_of_head?_rankBy ha hbc
  have hge : a.score ≤ b.score := le_of_head?_rankBy hb (h.mem_iff.mp hac)
  exact ⟨a, b, ha, hb, hbc, le_antisymm hge hle⟩

theorem SubGroup.ofDisagreeing_rearranged (h : cs.Perm ds) (hne : cs ≠ []) (p : String)
    (kind : IdentityKind) : (ofDisagreeing p kind cs).Rearranged (ofDisagreeing p kind ds) := by
  have hdiffs := compareCopies_rearranged h p kind
  have hfields : (compareCopies p kind cs).diffFields = (compareCopies p kind ds).diffFields :=
    map_eq_map_of_rel hdiffs fun hxy => hxy.field
  have hmembers := h.map Member.ofEntry
  obtain ⟨a, b, ha, hb, hbc, hscore⟩ := exists_tops_of_perm h hne
  refine ⟨rfl, rfl, hmembers.length_eq, hmembers, hfields, hdiffs,
    Comparison.conflictTypes_congr hfields, Comparison.hasCredentialConflict_congr hfields,
    a, b, top_ofDisagreeing ha, top_ofDisagreeing hb, hscore, ?_⟩
  rw [copies_ofDisagreeing]
  intro huntied
  exact huntied b hbc hscore.symm

namespace Report

theorem copiesOf_perm (h : entries.Perm entries') (K : Identity) (p : String) :
    (copiesOf entries K p).Perm (copiesOf entries' K p) :=
  h.filter _

theorem listed_rearranged (h : entries.Perm entries') {s t : SubGroup}
    (hs : (K, s) ∈ (ofEntries entries).listing) (ht : (K, t) ∈ (ofEntries entries').listing)
    (hp : s.protocol = t.protocol) : s.Rearranged t := by
  have hne : copiesOf entries K t.protocol ≠ [] := by
    rw [← hp, ← copies_eq hs]
    exact copies_ne_nil hs
  rw [eq_ofDisagreeing hs, eq_ofDisagreeing ht, hp]
  exact SubGroup.ofDisagreeing_rearranged (copiesOf_perm h K _) hne _ _

theorem headings_perm (h : entries.Perm entries') :
    (ofEntries entries).headings.Perm (ofEntries entries').headings := by
  rw [List.perm_ext_iff_of_nodup (headings_nodup entries) (headings_nodup entries')]
  rintro ⟨K, p⟩
  simp only [mem_headings_iff, (copiesOf_perm h K p).mem_iff]

theorem exists_listed (h : entries.Perm entries') {s : SubGroup}
    (hs : (K, s) ∈ (ofEntries entries).listing) :
    ∃ t, (K, t) ∈ (ofEntries entries').listing ∧ s.Rearranged t := by
  have hheading : (K, s.protocol) ∈ (ofEntries entries).headings := List.mem_map.mpr ⟨_, hs, rfl⟩
  obtain ⟨⟨K', t⟩, ht, he⟩ := List.mem_map.mp ((headings_perm h).mem_iff.mp hheading)
  obtain ⟨rfl, hp⟩ := Prod.mk.inj he
  exact ⟨t, ht, listed_rearranged h hs ht hp.symm⟩

theorem identities_perm (h : entries.Perm entries') :
    ((ofEntries entries).groups.map (·.identity)).Perm
      ((ofEntries entries').groups.map (·.identity)) := by
  rw [List.perm_ext_iff_of_nodup (groups_identities_nodup _) (groups_identities_nodup _)]
  intro K
  simp only [mem_identities_iff, (headings_perm h).mem_iff]

end Report

structure Group.Rearranged (g h : Group) : Prop where
  severity : g.severity = h.severity
  size : g.size = h.size
  protocols : (g.subGroups.map (·.protocol)).Perm (h.subGroups.map (·.protocol))
  subGroups : ∀ s ∈ g.subGroups, ∀ t ∈ h.subGroups, s.protocol = t.protocol → s.Rearranged t

namespace Report

variable {g g' : Group}

theorem high_of_perm (h : entries.Perm entries') (hg : g ∈ (ofEntries entries).groups)
    (hg' : g' ∈ (ofEntries entries').groups) (hid : g.identity = g'.identity)
    (hhigh : g.severity = .high) : g'.severity = .high := by
  obtain ⟨s, hs, hcredential⟩ := (severity_eq_high_iff hg).mp hhigh
  obtain ⟨t, ht, hst⟩ := exists_listed h ((mem_subGroups_iff hg).mp hs)
  rw [severity_eq_high_iff hg']
  refine ⟨t, (mem_subGroups_iff hg').mpr (hid ▸ ht), ?_⟩
  rw [← hst.hasCredentialConflict, hcredential]

theorem protocols_subset_of_perm (h : entries.Perm entries') (hg : g ∈ (ofEntries entries).groups)
    (hg' : g' ∈ (ofEntries entries').groups) (hid : g.identity = g'.identity) :
    g.subGroups.map (·.protocol) ⊆ g'.subGroups.map (·.protocol) := by
  intro p hp
  obtain ⟨s, hs, rfl⟩ := List.mem_map.mp hp
  obtain ⟨t, ht, hst⟩ := exists_listed h ((mem_subGroups_iff hg).mp hs)
  exact List.mem_map.mpr ⟨t, (mem_subGroups_iff hg').mpr (hid ▸ ht), hst.protocol.symm⟩

theorem group_rearranged (h : entries.Perm entries') (hg : g ∈ (ofEntries entries).groups)
    (hg' : g' ∈ (ofEntries entries').groups) (hid : g.identity = g'.identity) :
    g.Rearranged g' where
  severity := by
    have hforth := high_of_perm h hg hg' hid
    have hback := high_of_perm h.symm hg' hg hid.symm
    cases hs : g.severity with
    | high => rw [hforth hs]
    | medium =>
      cases hs' : g'.severity with
      | high => exact absurd (hs.symm.trans (hback hs')) nofun
      | medium => rfl
  size := by
    rw [size_eq hg, size_eq hg', hid]
    exact (h.filter _).length_eq
  protocols := by
    rw [List.perm_ext_iff_of_nodup (subGroups_protocols_nodup hg) (subGroups_protocols_nodup hg')]
    exact fun p => ⟨fun hp => protocols_subset_of_perm h hg hg' hid hp,
      fun hp => protocols_subset_of_perm h.symm hg' hg hid.symm hp⟩
  subGroups := by
    intro s hs t ht hp
    rw [mem_subGroups_iff hg] at hs
    rw [mem_subGroups_iff hg', ← hid] at ht
    exact listed_rearranged h hs ht hp

theorem identityGroups_perm (h : entries.Perm entries') :
    ((identityGroups id entries).map (·.identity)).Perm
      ((identityGroups id entries').map (·.identity)) := by
  rw [List.perm_ext_iff_of_nodup (identityGroups_identities_nodup id entries)
    (identityGroups_identities_nodup id entries')]
  intro K
  simp only [mem_identityGroups_identities, h.mem_iff]

def verdicts (r : Report) : List (Identity × Severity) :=
  r.groups.map fun g => (g.identity, g.severity)

theorem verdicts_nodup (entries : List Entry) : (ofEntries entries).verdicts.Nodup := by
  apply List.Nodup.of_map Prod.fst
  rw [verdicts, List.map_map]
  exact groups_identities_nodup entries

theorem verdicts_subset_of_perm (h : entries.Perm entries') :
    (ofEntries entries).verdicts ⊆ (ofEntries entries').verdicts := by
  intro x hx
  obtain ⟨g, hg, rfl⟩ := List.mem_map.mp hx
  -- the identity is listed again, and its group has the same severity there
  have hid : g.identity ∈ (ofEntries entries').groups.map (·.identity) :=
    (identities_perm h).mem_iff.mp (List.mem_map_of_mem hg)
  obtain ⟨g', hg', he⟩ := List.mem_map.mp hid
  have hseverity := (group_rearranged h hg hg' he.symm).severity
  exact List.mem_map.mpr ⟨g', hg', Prod.ext he hseverity.symm⟩

theorem verdicts_perm (h : entries.Perm entries') :
    (ofEntries entries).verdicts.Perm (ofEntries entries').verdicts := by
  have hforth := List.subperm_of_subset (verdicts_nodup entries) (verdicts_subset_of_perm h)
  have hback := List.subperm_of_subset (verdicts_nodup entries') (verdicts_subset_of_perm h.symm)
  exact hforth.antisymm hback

theorem countP_high_eq (r : Report) :
    (r.groups.countP fun g => g.severity = .high) = r.verdicts.countP fun v => v.2 = .high := by
  rw [verdicts, List.countP_map]
  rfl

theorem summary_of_perm (h : entries.Perm entries') :
    (ofEntries entries).summary = (ofEntries entries').summary := by
  have htotal := (identityGroups_perm h).length_eq
  have hgroups := (identities_perm h).length_eq
  have hhigh := (verdicts_perm h).countP_eq fun v => v.2 = .high
  rw [List.length_map, List.length_map] at htotal hgroups
  rw [← countP_high_eq, ← countP_high_eq] at hhigh
  have hunidentifiable : unidentifiable entries = unidentifiable entries' := h.countP_eq _
  rw [summary_ofEntries, summary_ofEntries, h.length_eq, hunidentifiable, htotal, hgroups, hhigh]

structure Rearranged (r q : Report) : Prop where
  summary : r.summary = q.summary
  identities : (r.groups.map (·.identity)).Perm (q.groups.map (·.identity))
  groups : ∀ g ∈ r.groups, ∀ g' ∈ q.groups, g.identity = g'.identity → g.Rearranged g'

theorem ofEntries_rearranged (h : entries.Perm entries') :
    (ofEntries entries).Rearranged (ofEntries entries') where
  summary := summary_of_perm h
  identities := identities_perm h
  groups := fun _ hg _ hg' hid => group_rearranged h hg hg' hid

theorem ofEntries_rearranged_reverse :
    driftingCopies.Perm driftingCopies.reverse ∧
      (ofEntries driftingCopies).Rearranged (ofEntries driftingCopies.reverse) := by
  have hperm := (List.reverse_perm driftingCopies).symm
  exact ⟨hperm, ofEntries_rearranged hperm⟩

end Report

end FleetDrift
