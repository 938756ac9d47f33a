import FleetDrift.Proofs.Identifiers
import FleetDrift.Proofs.ReportGroups

/-! # The order and the counts of a report
Groups of high severity come first, then larger groups, and among groups that tie the client that
occurs first in the scan. Every entry is counted once, under its identity or as one without a
name. -/
namespace FleetDrift

variable {entries : List Entry} {K : Identity} {g h : Group}

def firstOf (entries : List Entry) (K : Identity) : Nat :=
  entries.findIdx fun e => e.HasIdentity K

theorem identityGroups_pairwise_firstOf (entries : List Entry) :
    ((identityGroups id entries).map (·.identity)).Pairwise fun K L =>
      firstOf entries K < firstOf entries L := by
  have hkeys := classesByKey?_pairwise_findIdx Entry.identity? entries
  simp only [Entry.identity?_eq_some_iff] at hkeys
  rw [identityGroups, List.map_map]
  exact hkeys

namespace Group

theorem precedes_iff : g.precedes h = true ↔ g.severity.rank < h.severity.rank ∨
    g.severity = h.severity ∧ h.size ≤ g.size := by
  simp [precedes]

theorem precedes_transitive (a b c : Group) (hab : a.precedes b) (hbc : b.precedes c) :
    a.precedes c := by
  rw [precedes_iff] at *
  rcases hab with hab | ⟨hs, hab⟩
  · rcases hbc with hbc | ⟨ht, -⟩
    · exact .inl (hab.trans hbc)
    · exact .inl (ht ▸ hab)
  · rcases hbc with hbc | ⟨ht, hbc⟩
    · exact .inl (hs ▸ hbc)
    · exact .inr ⟨hs.trans ht, hbc.trans hab⟩

theorem precedes_total (a b : Group) : (a.precedes b || b.precedes a) = true := by
  rw [Bool.or_eq_true, precedes_iff, precedes_iff]
  have hsize := Nat.le_total a.size b.size
  cases a.severity <;> cases b.severity <;> simp [Severity.rank, hsize.symm]

/-- The three reasons for one group to stand above another, each where those before it tie. -/
inductive Above (entries : List Entry) (g h : Group) : Prop where
  | severity (high : g.severity = .high) (medium : h.severity = .medium)
  | size (severity : g.severity = h.severity) (larger : h.size < g.size)
  | first (severity : g.severity = h.severity) (size : g.size = h.size)
      (earlier : firstOf entries g.identity < firstOf entries h.identity)

end Group

namespace Report

/-- Before they are sorted, the groups stand in the order of their clients. -/
theorem unsorted_pairwise_firstOf (entries : List Entry) :
    ((identityGroups id entries).filterMap Group.ofIdentityGroup?).Pairwise fun g h =>
      firstOf entries g.identity < firstOf entries h.identity := by
  have hsub : (((identityGroups id entries).filterMap Group.ofIdentityGroup?).map
      (·.identity)).Sublist ((identityGroups id entries).map (·.identity)) :=
    filterMap_keys_sublist (fun _ _ hof => (Group.ofIdentityGroup?_spec hof).1) _
  have hsorted := (identityGroups_pairwise_firstOf entries).sublist hsub
  rw [List.pairwise_map] at hsorted
  exact hsorted

theorem groups_pairwise_above (entries : List Entry) :
    (ofEntries entries).groups.Pairwise (Group.Above entries) := by
  rw [List.pairwise_iff_forall_sublist]
  intro g h hsub
  obtain ⟨hgh, htie⟩ := sublist_of_sublist_mergeSort Group.precedes_transitive
    Group.precedes_total hsub
  rcases Group.precedes_iff.mp hgh with hrank | ⟨hseverity, hsize⟩
  · apply Group.Above.severity
    · cases hg : g.severity with
      | high => rfl
      | medium => cases hh : h.severity <;> simp [hg, hh, Severity.rank] at hrank
    · cases hh : h.severity with
      | high => simp [hh, Severity.rank] at hrank
      | medium => rfl
  · rcases hsize.lt_or_eq with hlt | heq
    · exact .size hseverity hlt
    · have hback : h.precedes g = true := Group.precedes_iff.mpr (.inr ⟨hseverity.symm, heq.ge⟩)
      have hfirst := List.pairwise_iff_forall_sublist.mp (unsorted_pairwise_firstOf entries)
        (htie hback)
      exact .first hseverity heq.symm hfirst

structure CredentialsDiffer (K : Identity) (a b : Entry) : Prop where
  left : a.HasIdentity K
  right : b.HasIdentity K
  protocol : a.normalizedProtocol = b.normalizedProtocol
  differ : ∃ c ∈ (CredentialFamily.ofProtocol a.normalizedProtocol).credentialFields,
    ¬ FieldValue.Same (c.value a) (c.value b)

theorem severity_high_iff_differ (hg : g ∈ (ofEntries entries).groups) : g.severity = .high ↔
    ∃ a ∈ entries, ∃ b ∈ entries, CredentialsDiffer g.identity a b := by
  rw [severity_eq_high_iff hg]
  constructor
  · rintro ⟨s, hs, hcredential⟩
    have hlisted := (mem_subGroups_iff hg).mp hs
    rw [eq_ofDisagreeing hlisted] at hcredential
    obtain ⟨a, ha, b, hb, c, hc, hne⟩ := hasCredentialConflict_iff.mp hcredential
    obtain ⟨hma, hKa, hpa⟩ := mem_copiesOf.mp ha
    obtain ⟨hmb, hKb, hpb⟩ := mem_copiesOf.mp hb
    exact ⟨a, hma, b, hmb, hKa, hKb, hpa.trans hpb.symm, c, hpa ▸ hc, hne⟩
  · rintro ⟨a, ha, b, hb, hKa, hKb, hp, c, hc, hne⟩
    have hma : a ∈ copiesOf entries g.identity a.normalizedProtocol :=
      mem_copiesOf.mpr ⟨ha, hKa, rfl⟩
    have hmb : b ∈ copiesOf entries g.identity a.normalizedProtocol :=
      mem_copiesOf.mpr ⟨hb, hKb, hp.symm⟩
    have hcompared : c ∈ comparableFields (.ofProtocol a.normalizedProtocol) g.identity.kind := by
      simp [comparableFields, hc]
    have hlisted := listing_of_disagree entries ⟨a, hma, b, hmb, c, hcompared, hne⟩
    refine ⟨_, (mem_subGroups_iff hg).mpr hlisted, ?_⟩
    exact hasCredentialConflict_iff.mpr ⟨a, hma, b, hmb, c, hc, hne⟩

theorem sum_identityGroups_sizes (entries : List Entry) :
    ((identityGroups id entries).map fun ig => ig.members.length).sum =
      entries.countP fun e => e.identity?.isSome := by
  rw [← sum_classesByKey?_lengths]
  simp [identityGroups, Function.comp_def]

theorem length_eq_unidentifiable_add (entries : List Entry) : entries.length =
    unidentifiable entries + ((identityGroups id entries).map fun ig => ig.members.length).sum := by
  have hsplit := List.length_eq_countP_add_countP (l := entries) fun e => e.identity?.isNone
  have hsome : (entries.countP fun e => ¬ e.identity?.isNone = true) =
      entries.countP fun e => e.identity?.isSome := by
    refine List.countP_congr fun e _ => ?_
    cases e.identity? <;> simp
  rw [hsome] at hsplit
  rw [sum_identityGroups_sizes, unidentifiable, hsplit]

theorem countP_medium (r : Report) :
    r.groups.length - (r.groups.countP fun g => g.severity = .high) =
      r.groups.countP fun g => g.severity = .medium := by
  have hsplit := List.length_eq_countP_add_countP (l := r.groups) fun g => g.severity = .high
  have hrest : (r.groups.countP fun g => ¬ (decide (g.severity = .high)) = true) =
      r.groups.countP fun g => g.severity = .medium := by
    refine List.countP_congr fun g _ => ?_
    cases g.severity <;> simp
  rw [hrest] at hsplit
  omega

/-- How a report is ordered, and what its numbers count. -/
structure Accounts (r : Report) (entries : List Entry) : Prop where
  order : r.groups.Pairwise (Group.Above entries)
  severity : ∀ g ∈ r.groups, g.severity = .high ↔
    ∃ a ∈ entries, ∃ b ∈ entries, CredentialsDiffer g.identity a b
  size : ∀ g ∈ r.groups, g.size = entries.countP fun e => e.HasIdentity g.identity
  conflictGroups : r.summary.conflictGroups = r.groups.length
  severities : r.summary.conflictGroups = r.summary.high + r.summary.medium
  high : r.summary.high = r.groups.countP fun g => g.severity = .high
  medium : r.summary.medium = r.groups.countP fun g => g.severity = .medium
  totalGroups : r.summary.totalGroups = (identityGroups id entries).length
  totalEntries : r.summary.totalEntries = r.summary.unidentifiableEntries +
    ((identityGroups id entries).map fun ig => ig.members.length).sum
  unidentifiable : r.summary.unidentifiableEntries = entries.countP fun e => e.Nameless

theorem ofEntries_accounts (entries : List Entry) : (ofEntries entries).Accounts entries where
  order := groups_pairwise_above entries
  severity _ hg := severity_high_iff_differ hg
  size g hg := by
    rw [size_eq hg, List.countP_eq_length_filter]
  conflictGroups := rfl
  severities := by
    rw [summary_ofEntries]
    have hle := List.countP_le_length (p := fun g => decide (g.severity = .high))
      (l := (ofEntries entries).groups)
    dsimp only
    omega
  high := rfl
  medium := countP_medium (ofEntries entries)
  totalGroups := rfl
  totalEntries := length_eq_unidentifiable_add entries
  unidentifiable := unidentifiable_eq entries

end Report

end FleetDrift
