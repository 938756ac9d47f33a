import FleetDrift.Proofs.ReportGroups
import Mathlib.Data.List.Perm.Subperm

/-! # Reports of growing scans
Entries that are added, wherever they are put, hide no conflict: two copies that differ still differ
among more copies. Fields, values and members of a sub-group can only become more, and a group whose
credentials differ stays one. -/
namespace FleetDrift

variable {entries more cs ds : List Entry} {K : Identity} {p : String} {kind : IdentityKind}

theorem exists_same_of_subset (h : cs ⊆ ds) {field : Field} {v : FieldValue}
    (hv : v ∈ distinctValues field cs) : ∃ w ∈ distinctValues field ds, v.Same w := by
  have hmem : v ∈ cs.map field.value := (firstByKey_sublist FieldValue.key _).subset hv
  obtain ⟨w, hw, hkey⟩ := key_mem_firstByKey FieldValue.key (List.map_subset field.value h hmem)
  exact ⟨w, hw, hkey.symm⟩

theorem diffFields_sublist (h : cs ⊆ ds) :
    (compareCopies p kind cs).diffFields.Sublist (compareCopies p kind ds).diffFields := by
  rw [diffFields_compareCopies, diffFields_compareCopies]
  apply List.monotone_filter_right
  intro field hdiff
  rw [decide_eq_true_eq, one_lt_length_distinctValues] at *
  obtain ⟨a, ha, b, hb, hne⟩ := hdiff
  exact ⟨a, h ha, b, h hb, hne⟩

theorem Comparison.conflictTypes_subset {c d : Comparison} (h : c.diffFields ⊆ d.diffFields) :
    c.conflictTypes ⊆ d.conflictTypes := by
  intro t ht
  obtain ⟨field, hf, hof⟩ := mem_conflictTypes.mp ht
  exact mem_conflictTypes.mpr ⟨field, h hf, hof⟩

structure FieldDiff.GrowsTo (x y : FieldDiff) : Prop where
  field : x.field = y.field
  values : ∀ v ∈ x.values, ∃ w ∈ y.values, v.Same w

theorem exists_fieldDiff_growsTo (h : cs ⊆ ds) {x : FieldDiff}
    (hx : x ∈ (compareCopies p kind cs).fieldDiffs) :
    ∃ y ∈ (compareCopies p kind ds).fieldDiffs, x.GrowsTo y := by
  obtain ⟨hf, hv, hl⟩ := mem_fieldDiffs.mp hx
  have hdiff : x.field ∈ (compareCopies p kind ds).diffFields :=
    (diffFields_sublist h).subset (List.mem_map_of_mem hx)
  obtain ⟨y, hy, hfield⟩ := List.mem_map.mp hdiff
  refine ⟨y, hy, hfield.symm, ?_⟩
  intro v hvx
  rw [hv] at hvx
  rw [(mem_fieldDiffs.mp hy).2.1, hfield]
  exact exists_same_of_subset h hvx

structure SubGroup.GrowsTo (s t : SubGroup) : Prop where
  protocol : s.protocol = t.protocol
  members : s.members.Sublist t.members
  diffFields : s.comparison.diffFields.Sublist t.comparison.diffFields
  conflictTypes : s.comparison.conflictTypes ⊆ t.comparison.conflictTypes
  fieldDiffs : ∀ x ∈ s.comparison.fieldDiffs, ∃ y ∈ t.comparison.fieldDiffs, x.GrowsTo y

theorem SubGroup.GrowsTo.hasCredentialConflict {s t : SubGroup} (h : s.GrowsTo t)
    (hs : s.comparison.hasCredentialConflict = true) :
    t.comparison.hasCredentialConflict = true := by
  rw [Comparison.hasCredentialConflict, decide_eq_true_eq] at *
  exact h.conflictTypes hs

theorem SubGroup.ofDisagreeing_growsTo (h : cs.Sublist ds) :
    (ofDisagreeing p kind cs).GrowsTo (ofDisagreeing p kind ds) := by
  have hfields : (compareCopies p kind cs).diffFields.Sublist (compareCopies p kind ds).diffFields :=
    diffFields_sublist h.subset
  constructor
  · rfl
  · exact h.map Member.ofEntry
  · exact hfields
  · exact Comparison.conflictTypes_subset hfields.subset
  · intro x hx
    exact exists_fieldDiff_growsTo h.subset hx

namespace Report

theorem copiesOf_sublist (h : entries.Sublist more) (K : Identity) (p : String) :
    (copiesOf entries K p).Sublist (copiesOf more K p) :=
  h.filter _

theorem exists_listed_growsTo (h : entries.Sublist more) {s : SubGroup}
    (hs : (K, s) ∈ (ofEntries entries).listing) :
    ∃ t, (K, t) ∈ (ofEntries more).listing ∧ s.GrowsTo t := by
  have hcopies := copiesOf_sublist h K s.protocol
  obtain ⟨a, ha, b, hb, hd⟩ := exists_disagree hs
  rw [copies_eq hs] at ha hb
  have hgrows : s.GrowsTo (.ofDisagreeing s.protocol K.kind (copiesOf more K s.protocol)) := by
    conv_lhs => rw [eq_ofDisagreeing hs]
    exact SubGroup.ofDisagreeing_growsTo hcopies
  exact ⟨_, listing_of_disagree more ⟨a, hcopies.subset ha, b, hcopies.subset hb, hd⟩, hgrows⟩

theorem identities_subset (h : entries.Sublist more) :
    (ofEntries entries).groups.map (·.identity) ⊆ (ofEntries more).groups.map (·.identity) := by
  intro K hK
  obtain ⟨g, hg, rfl⟩ := List.mem_map.mp hK
  obtain ⟨p, hp⟩ := mem_identities_iff.mp hK
  obtain ⟨⟨L, s⟩, hs, heading⟩ := List.mem_map.mp hp
  obtain ⟨rfl, -⟩ := Prod.mk.inj heading
  obtain ⟨t, ht, -⟩ := exists_listed_growsTo h hs
  exact mem_identities_iff.mpr ⟨t.protocol, List.mem_map.mpr ⟨_, ht, rfl⟩⟩

end Report

structure Group.GrowsTo (g h : Group) : Prop where
  identity : g.identity = h.identity
  size : g.size ≤ h.size
  high : g.severity = .high → h.severity = .high
  subGroups : ∀ s ∈ g.subGroups, ∃ t ∈ h.subGroups, s.GrowsTo t

namespace Report

variable {g g' : Group}

theorem exists_subGroup_growsTo (h : entries.Sublist more) (hg : g ∈ (ofEntries entries).groups)
    (hg' : g' ∈ (ofEntries more).groups) (hid : g.identity = g'.identity) {s : SubGroup}
    (hs : s ∈ g.subGroups) : ∃ t ∈ g'.subGroups, s.GrowsTo t := by
  obtain ⟨t, ht, hst⟩ := exists_listed_growsTo h ((mem_subGroups_iff hg).mp hs)
  rw [hid] at ht
  exact ⟨t, (mem_subGroups_iff hg').mpr ht, hst⟩

theorem group_growsTo (h : entries.Sublist more) (hg : g ∈ (ofEntries entries).groups)
    (hg' : g' ∈ (ofEntries more).groups) (hid : g.identity = g'.identity) : g.GrowsTo g' := by
  constructor
  · exact hid
  · rw [size_eq hg, size_eq hg', hid]
    exact (h.filter _).length_le
  · intro hhigh
    obtain ⟨s, hs, hcredential⟩ := (severity_eq_high_iff hg).mp hhigh
    obtain ⟨t, ht, hst⟩ := exists_subGroup_growsTo h hg hg' hid hs
    exact (severity_eq_high_iff hg').mpr ⟨t, ht, hst.hasCredentialConflict hcredential⟩
  · intro s hs
    exact exists_subGroup_growsTo h hg hg' hid hs

structure GrowsTo (r q : Report) : Prop where
  groups : ∀ g ∈ r.groups, ∃ g' ∈ q.groups, g.GrowsTo g'
  totalGroups : r.summary.totalGroups ≤ q.summary.totalGroups
  conflictGroups : r.summary.conflictGroups ≤ q.summary.conflictGroups
  unidentifiable : r.summary.unidentifiableEntries ≤ q.summary.unidentifiableEntries

theorem length_identityGroups_le (h : entries.Sublist more) :
    (identityGroups id entries).length ≤ (identityGroups id more).length := by
  have hsubset : (identityGroups id entries).map (·.identity) ⊆
      (identityGroups id more).map (·.identity) := by
    intro K hK
    rw [mem_identityGroups_identities] at *
    obtain ⟨e, he, hid⟩ := hK
    exact ⟨e, h.subset he, hid⟩
  have hnodup := identityGroups_identities_nodup id entries
  have hle := (List.subperm_of_subset hnodup hsubset).length_le
  rwa [List.length_map, List.length_map] at hle

theorem length_groups_le (h : entries.Sublist more) :
    (ofEntries entries).groups.length ≤ (ofEntries more).groups.length := by
  have hle := (List.subperm_of_subset (groups_identities_nodup entries)
    (identities_subset h)).length_le
  rwa [List.length_map, List.length_map] at hle

theorem ofEntries_growsTo (h : entries.Sublist more) :
    (ofEntries entries).GrowsTo (ofEntries more) := by
  constructor
  · intro g hg
    obtain ⟨g', hg', hid⟩ := List.mem_map.mp (identities_subset h (List.mem_map_of_mem hg))
    exact ⟨g', hg', group_growsTo h hg hg' hid.symm⟩
  · exact length_identityGroups_le h
  · exact length_groups_le h
  · exact h.countP_le

theorem insertion_hides_nothing (entries : List Entry) (position : Nat) (e : Entry) :
    (ofEntries entries).GrowsTo (ofEntries (entries.insertIdx position e)) :=
  ofEntries_growsTo (List.sublist_insertIdx entries position e)

end Report

end FleetDrift
