import FleetDrift.Proofs.Copies
import FleetDrift.Proofs.Disagreement
import FleetDrift.Proofs.Ranking
import FleetDrift.Report.Basic

/-! # What a report contains
A report is determined one identity and protocol at a time: the sub-group listed there is made of
the copies of that client under that protocol, and it is listed when two of them disagree. -/
namespace FleetDrift

@[simp] theorem Member.locator_ofEntry (e : Entry) : (Member.ofEntry e).locator = e.locator := by
  simp only [Member.ofEntry]

namespace SubGroup

def copies (s : SubGroup) : List Entry := s.members.map (·.entry)

def ofDisagreeing (protocol : String) (kind : IdentityKind) (copies : List Entry) : SubGroup :=
  let ranked := (rank copies).zipIdx.map fun (e, i) => Candidate.ofEntry i e
  { protocol := protocol
    family := .ofProtocol protocol
    members := copies.map Member.ofEntry
    comparison := compareCopies protocol kind copies
    ranked := ranked
    recommended := (ranked.head?.map (·.locator)).getD "" }

variable {p : String} {kind : IdentityKind} {cs : List Entry} {s : SubGroup}

theorem ofCopies?_eq_some_iff : ofCopies? p kind cs = some s ↔
    (∃ a ∈ cs, ∃ b ∈ cs, Disagree (.ofProtocol p) kind a b) ∧ ofDisagreeing p kind cs = s := by
  rw [← hasConflict_iff]
  simp [ofCopies?, ofDisagreeing]

@[simp] theorem protocol_ofDisagreeing : (ofDisagreeing p kind cs).protocol = p := rfl

@[simp] theorem family_ofDisagreeing :
    (ofDisagreeing p kind cs).family = .ofProtocol p := by
  simp only [ofDisagreeing]

@[simp] theorem members_ofDisagreeing :
    (ofDisagreeing p kind cs).members = cs.map Member.ofEntry := rfl

@[simp] theorem ranked_ofDisagreeing : (ofDisagreeing p kind cs).ranked =
    (rank cs).zipIdx.map fun (e, i) => Candidate.ofEntry i e := rfl

@[simp] theorem comparison_ofDisagreeing :
    (ofDisagreeing p kind cs).comparison = compareCopies p kind cs := rfl

@[simp] theorem copies_ofDisagreeing : (ofDisagreeing p kind cs).copies = cs := by
  simp [copies, ofDisagreeing, Member.ofEntry, Function.comp_def]

end SubGroup

def IdentityGroup.subGroups (ig : IdentityGroup Entry) : List SubGroup :=
  (protocolGroups id ig.members).filterMap fun p =>
    SubGroup.ofCopies? p.protocol ig.identity.kind p.members

theorem Group.ofIdentityGroup?_eq (ig : IdentityGroup Entry) :
    Group.ofIdentityGroup? ig = if ig.subGroups.isEmpty then none else some
      { identity := ig.identity
        severity :=
          if ig.subGroups.any fun s => s.comparison.hasCredentialConflict then .high else .medium
        size := ig.members.length
        subGroups := ig.subGroups } := rfl

theorem Group.ofIdentityGroup?_eq_some_iff {ig : IdentityGroup Entry} {g : Group} :
    Group.ofIdentityGroup? ig = some g ↔ ig.subGroups ≠ [] ∧
      { identity := ig.identity
        severity :=
          if ig.subGroups.any fun s => s.comparison.hasCredentialConflict then .high else .medium
        size := ig.members.length
        subGroups := ig.subGroups } = g := by
  by_cases h : ig.subGroups = [] <;> simp [Group.ofIdentityGroup?_eq, h]

theorem Group.ofIdentityGroup?_spec {ig : IdentityGroup Entry} {g : Group}
    (h : Group.ofIdentityGroup? ig = some g) :
    g.identity = ig.identity ∧ g.subGroups = ig.subGroups := by
  obtain ⟨-, rfl⟩ := Group.ofIdentityGroup?_eq_some_iff.mp h
  exact ⟨rfl, rfl⟩

theorem IdentityGroup.mem_subGroups {ig : IdentityGroup Entry} {s : SubGroup} :
    s ∈ ig.subGroups ↔ ∃ pg ∈ protocolGroups id ig.members,
      SubGroup.ofCopies? pg.protocol ig.identity.kind pg.members = some s :=
  List.mem_filterMap

namespace Report

def listing (r : Report) : List (Identity × SubGroup) :=
  r.groups.flatMap fun g => g.subGroups.map fun s => (g.identity, s)

def headings (r : Report) : List (Identity × String) :=
  r.listing.map fun x => (x.1, x.2.protocol)

theorem mem_listing {r : Report} {K : Identity} {s : SubGroup} :
    (K, s) ∈ r.listing ↔ ∃ g ∈ r.groups, g.identity = K ∧ s ∈ g.subGroups := by
  simp only [listing, List.mem_flatMap, List.mem_map, Prod.mk.injEq]
  constructor
  · rintro ⟨g, hg, s, hs, rfl, rfl⟩
    exact ⟨g, hg, rfl, hs⟩
  · rintro ⟨g, hg, rfl, hs⟩
    exact ⟨g, hg, s, hs, rfl, rfl⟩

variable {entries : List Entry} {K : Identity} {p : String}

theorem summary_ofEntries (entries : List Entry) : (ofEntries entries).summary =
    { totalEntries := entries.length
      unidentifiableEntries := unidentifiable entries
      totalGroups := (identityGroups id entries).length
      conflictGroups := (ofEntries entries).groups.length
      high := (ofEntries entries).groups.countP fun g => g.severity = .high
      medium := (ofEntries entries).groups.length -
        (ofEntries entries).groups.countP fun g => g.severity = .high } := rfl

theorem mem_groups {g : Group} : g ∈ (ofEntries entries).groups ↔
    ∃ ig ∈ identityGroups id entries, Group.ofIdentityGroup? ig = some g := by
  simp [ofEntries]

theorem groups_identities_nodup (entries : List Entry) :
    ((ofEntries entries).groups.map (·.identity)).Nodup := by
  have hperm := List.mergeSort_perm
    ((identityGroups id entries).filterMap Group.ofIdentityGroup?) Group.precedes
  refine (hperm.map (·.identity)).nodup_iff.mpr ?_
  exact (filterMap_keys_sublist (fun _ _ h => (Group.ofIdentityGroup?_spec h).1) _).nodup
    (identityGroups_identities_nodup id entries)

theorem subGroups_protocols_nodup {g : Group} (hg : g ∈ (ofEntries entries).groups) :
    (g.subGroups.map (·.protocol)).Nodup := by
  obtain ⟨ig, -, h⟩ := mem_groups.mp hg
  rw [(Group.ofIdentityGroup?_spec h).2]
  refine (filterMap_keys_sublist (fun _ s hs => ?_) _).nodup
    (protocolGroups_protocols_nodup id ig.members)
  rw [← (SubGroup.ofCopies?_eq_some_iff.mp hs).2, SubGroup.protocol_ofDisagreeing]

theorem filter_protocol_eq_copiesOf {ig : IdentityGroup Entry}
    (h : ig ∈ identityGroups id entries) (p : String) :
    (ig.members.filter fun e => e.normalizedProtocol = p) = copiesOf entries ig.identity p := by
  rw [(mem_identityGroups.mp h).2, List.filter_filter, copiesOf]
  simp only [id_eq, Bool.and_comm, Bool.decide_and]

theorem mem_listing_iff {s : SubGroup} : (K, s) ∈ (ofEntries entries).listing ↔
    SubGroup.ofCopies? s.protocol K.kind (copiesOf entries K s.protocol) = some s := by
  rw [mem_listing]
  constructor
  · rintro ⟨g, hg, rfl, hs⟩
    obtain ⟨ig, hig, h⟩ := mem_groups.mp hg
    obtain ⟨hid, hsub⟩ := Group.ofIdentityGroup?_spec h
    obtain ⟨pg, hpg, hs⟩ := IdentityGroup.mem_subGroups.mp (hsub ▸ hs)
    have hp : s.protocol = pg.protocol := by
      rw [← (SubGroup.ofCopies?_eq_some_iff.mp hs).2, SubGroup.protocol_ofDisagreeing]
    have hm : pg.members = copiesOf entries ig.identity pg.protocol := by
      rw [(mem_protocolGroups.mp hpg).2]
      exact filter_protocol_eq_copiesOf hig pg.protocol
    rw [hid, hp, ← hm]
    exact hs
  · intro h
    obtain ⟨⟨a, ha, b, hb, hd⟩, -⟩ := SubGroup.ofCopies?_eq_some_iff.mp h
    let ig : IdentityGroup Entry := ⟨K, entries.filter fun e => e.HasIdentity K⟩
    have hig : ig ∈ identityGroups id entries := by
      obtain ⟨hm, hK, -⟩ := mem_copiesOf.mp ha
      exact mem_identityGroups.mpr ⟨⟨a, hm, hK⟩, rfl⟩
    let pg : ProtocolGroup Entry := ⟨s.protocol, copiesOf entries K s.protocol⟩
    have hpg : pg ∈ protocolGroups id ig.members := by
      refine mem_protocolGroups.mpr ⟨?_, (filter_protocol_eq_copiesOf hig s.protocol).symm⟩
      exact two_le_length_of_ne ha hb hd.ne
    have hs : s ∈ ig.subGroups := IdentityGroup.mem_subGroups.mpr ⟨pg, hpg, h⟩
    have hg := Group.ofIdentityGroup?_eq_some_iff.mpr ⟨List.ne_nil_of_mem hs, rfl⟩
    exact ⟨_, mem_groups.mpr ⟨ig, hig, hg⟩, rfl, hs⟩

theorem eq_ofDisagreeing {s : SubGroup} (h : (K, s) ∈ (ofEntries entries).listing) :
    s = .ofDisagreeing s.protocol K.kind (copiesOf entries K s.protocol) :=
  (SubGroup.ofCopies?_eq_some_iff.mp (mem_listing_iff.mp h)).2.symm

theorem copies_eq {s : SubGroup} (h : (K, s) ∈ (ofEntries entries).listing) :
    s.copies = copiesOf entries K s.protocol :=
  (congrArg SubGroup.copies (eq_ofDisagreeing h)).trans SubGroup.copies_ofDisagreeing

theorem exists_disagree {s : SubGroup} (h : (K, s) ∈ (ofEntries entries).listing) :
    ∃ a ∈ s.copies, ∃ b ∈ s.copies, Disagree (.ofProtocol s.protocol) K.kind a b := by
  rw [copies_eq h]
  exact (SubGroup.ofCopies?_eq_some_iff.mp (mem_listing_iff.mp h)).1

theorem copies_ne_nil {s : SubGroup} (h : (K, s) ∈ (ofEntries entries).listing) :
    s.copies ≠ [] := by
  obtain ⟨a, ha, -⟩ := exists_disagree h
  exact List.ne_nil_of_mem ha

theorem two_le_size {s : SubGroup} (h : (K, s) ∈ (ofEntries entries).listing) : 2 ≤ s.size := by
  obtain ⟨a, ha, b, hb, hd⟩ := exists_disagree h
  have hlen := two_le_length_of_ne ha hb hd.ne
  rwa [SubGroup.copies, List.length_map] at hlen

theorem members_eq {s : SubGroup} (h : (K, s) ∈ (ofEntries entries).listing) :
    s.members = s.copies.map Member.ofEntry := by
  rw [copies_eq h]
  exact (congrArg SubGroup.members (eq_ofDisagreeing h)).trans SubGroup.members_ofDisagreeing

theorem mem_members_iff {s : SubGroup} {m : Member} (h : (K, s) ∈ (ofEntries entries).listing) :
    m ∈ s.members ↔ m.entry ∈ copiesOf entries K s.protocol ∧ m.locator = m.entry.locator := by
  rw [members_eq h, copies_eq h, List.mem_map]
  constructor
  · rintro ⟨e, he, rfl⟩
    exact ⟨he, rfl⟩
  · rintro ⟨he, hl⟩
    obtain ⟨locator, e⟩ := m
    exact ⟨e, he, congrArg (Member.mk · e) hl.symm⟩

theorem hasIdentity_of_mem {s : SubGroup} {m : Member} (h : (K, s) ∈ (ofEntries entries).listing)
    (hm : m ∈ s.members) : m.entry.HasIdentity K ∧ m.entry.normalizedProtocol = s.protocol :=
  (mem_copiesOf.mp ((mem_members_iff h).mp hm).1).2

theorem ofEntry_mem_members {s : SubGroup} (h : (K, s) ∈ (ofEntries entries).listing) {e : Entry}
    (he : e ∈ s.copies) : Member.ofEntry e ∈ s.members := by
  rw [members_eq h]
  exact List.mem_map_of_mem he

theorem family_eq {s : SubGroup} (h : (K, s) ∈ (ofEntries entries).listing) :
    s.family = .ofProtocol s.protocol :=
  (congrArg SubGroup.family (eq_ofDisagreeing h)).trans SubGroup.family_ofDisagreeing

theorem comparison_eq {s : SubGroup} (h : (K, s) ∈ (ofEntries entries).listing) :
    s.comparison = compareCopies s.protocol K.kind s.copies := by
  rw [copies_eq h]
  exact (congrArg SubGroup.comparison (eq_ofDisagreeing h)).trans
    SubGroup.comparison_ofDisagreeing

theorem listing_of_disagree (entries : List Entry)
    (h : ∃ a ∈ copiesOf entries K p, ∃ b ∈ copiesOf entries K p,
      Disagree (.ofProtocol p) K.kind a b) :
    (K, .ofDisagreeing p K.kind (copiesOf entries K p)) ∈ (ofEntries entries).listing :=
  mem_listing_iff.mpr (SubGroup.ofCopies?_eq_some_iff.mpr ⟨h, rfl⟩)

theorem listing_of_one_client (entries : List Entry)
    (hall : ∀ e ∈ entries, e.HasIdentity K ∧ e.normalizedProtocol = p)
    (h : ∃ a ∈ entries, ∃ b ∈ entries, Disagree (.ofProtocol p) K.kind a b) :
    (K, .ofDisagreeing p K.kind entries) ∈ (ofEntries entries).listing := by
  have hl := listing_of_disagree (K := K) (p := p) entries
  rw [copiesOf_eq_self hall] at hl
  exact hl h

theorem mem_headings_iff : (K, p) ∈ (ofEntries entries).headings ↔
    ∃ a ∈ copiesOf entries K p, ∃ b ∈ copiesOf entries K p,
      Disagree (.ofProtocol p) K.kind a b := by
  simp only [headings, List.mem_map, Prod.mk.injEq, Prod.exists]
  constructor
  · rintro ⟨_, s, hs, rfl, rfl⟩
    rw [← copies_eq hs]
    exact exists_disagree hs
  · intro h
    exact ⟨K, _, listing_of_disagree entries h, rfl, rfl⟩

theorem headings_nodup (entries : List Entry) : (ofEntries entries).headings.Nodup := by
  have hd := List.pairwise_map.mp (groups_identities_nodup entries)
  rw [headings, listing, List.map_flatMap, List.nodup_flatMap]
  constructor
  · intro g hg
    have hp := (subGroups_protocols_nodup hg).map (f := fun p => (g.identity, p))
      fun _ _ he => (Prod.mk.inj he).2
    simpa [Function.comp_def] using hp
  · refine hd.imp fun {g g'} hne => ?_
    intro x hx hx'
    simp only [List.map_map, List.mem_map, Function.comp_apply] at hx hx'
    obtain ⟨s, -, rfl⟩ := hx
    obtain ⟨s', -, he⟩ := hx'
    exact hne (Prod.mk.inj he).1.symm

theorem ranked_eq {s : SubGroup} (h : (K, s) ∈ (ofEntries entries).listing) :
    s.ranked = (rank s.copies).zipIdx.map fun (e, i) => Candidate.ofEntry i e := by
  rw [copies_eq h]
  exact (congrArg SubGroup.ranked (eq_ofDisagreeing h)).trans SubGroup.ranked_ofDisagreeing

end Report

structure Candidate.Shows (c : Candidate) (e : Entry) : Prop where
  locator : c.locator = e.locator
  serverId : c.serverId = e.serverId
  serverName : c.serverName = e.serverName
  inboundRemark : c.inboundRemark = e.inboundRemark
  enable : c.enable = e.isEnabled
  expiryTime : c.expiryTime = e.expiryTime
  totalGB : c.totalGB = e.totalGB
  limitIp : c.limitIp = e.limitIp

namespace Report

variable {entries : List Entry}

/-- What a report owes to the entries it is made of: it lists the disagreements and no others, each
one once and within one group, with all its copies in order and a ranking of them. -/
structure Describes (r : Report) (entries : List Entry) : Prop where
  listed : ∀ K p, (K, p) ∈ r.headings ↔ ∃ a ∈ entries, ∃ b ∈ entries,
    a.HasIdentity K ∧ b.HasIdentity K ∧ a.normalizedProtocol = p ∧ b.normalizedProtocol = p ∧
      Disagree (.ofProtocol p) K.kind a b
  listedOnce : r.headings.Nodup
  oneGroup : (r.groups.map (·.identity)).Nodup
  members : ∀ K s, (K, s) ∈ r.listing → s.members.map (·.entry) =
      (entries.filter fun e => e.HasIdentity K ∧ e.normalizedProtocol = s.protocol) ∧
    ∀ m ∈ s.members, m.locator = m.entry.locator
  ranking : ∀ K s, (K, s) ∈ r.listing → s.ranked.map (·.rank) = List.range s.members.length ∧
    ∃ order : List Entry, order.Perm (s.members.map (·.entry)) ∧
      List.Forall₂ Candidate.Shows s.ranked order
  disjoint : r.listing.Pairwise fun x y => List.Disjoint x.2.copies y.2.copies

theorem ofEntries_describes (entries : List Entry) : (ofEntries entries).Describes entries where
  listed K p := by
    rw [mem_headings_iff]
    simp only [mem_copiesOf]
    constructor
    · rintro ⟨a, ⟨ha, hKa, hpa⟩, b, ⟨hb, hKb, hpb⟩, hd⟩
      exact ⟨a, ha, b, hb, hKa, hKb, hpa, hpb, hd⟩
    · rintro ⟨a, ha, b, hb, hKa, hKb, hpa, hpb, hd⟩
      exact ⟨a, ⟨ha, hKa, hpa⟩, b, ⟨hb, hKb, hpb⟩, hd⟩
  listedOnce := headings_nodup entries
  oneGroup := groups_identities_nodup entries
  members K s h := ⟨copies_eq h, fun _ hm => ((mem_members_iff h).mp hm).2⟩
  ranking K s h := by
    have hperm : (rank s.copies).Perm s.copies := rankBy_perm Entry.score s.copies
    refine ⟨?_, rank s.copies, hperm, ?_⟩
    · have hsize : (rank s.copies).length = s.members.length := by
        rw [hperm.length_eq, SubGroup.copies, List.length_map]
      rw [ranked_eq h, List.map_map, ← hsize, List.range_eq_range', ← List.zipIdx_map_snd 0]
      rfl
    · rw [ranked_eq h]
      nth_rewrite 2 [← List.zipIdx_map_fst 0 (rank s.copies)]
      rw [List.forall₂_map_left_iff, List.forall₂_map_right_iff, List.forall₂_same]
      intro x _
      exact ⟨rfl, rfl, rfl, rfl, rfl, rfl, rfl, rfl⟩
  disjoint := by
    have hn : (ofEntries entries).listing.Pairwise
        fun x y => (x.1, x.2.protocol) ≠ (y.1, y.2.protocol) :=
      List.pairwise_map.mp (headings_nodup entries)
    refine hn.imp_of_mem fun {x y} hx hy hne e hex hey => hne ?_
    -- an entry has one identity and one protocol, and these are the heading
    rw [copies_eq hx, mem_copiesOf] at hex
    rw [copies_eq hy, mem_copiesOf] at hey
    rw [hex.2.1.unique hey.2.1, ← hex.2.2, hey.2.2]

end Report

end FleetDrift
