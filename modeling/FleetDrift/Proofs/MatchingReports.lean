import FleetDrift.Plan.Encoding
import FleetDrift.Proofs.Correspondence
import FleetDrift.Proofs.Planning
import FleetDrift.Proofs.ZeroSums

/-!
# Reports of snapshots that match

Snapshots of one canonical text have the same entries up to the signs of zeros, so they are grouped,
compared and planned alike. Only the ranking looks at those signs, and it does so through scores.
-/

namespace FleetDrift

open Number (Binary64)

namespace Entry

variable {e f : Entry}

namespace Same

theorem normalizedEmail (h : e.Same f) : e.normalizedEmail = f.normalizedEmail := by
  rw [Entry.normalizedEmail, Entry.normalizedEmail, h.email]

theorem normalizedProtocol (h : e.Same f) : e.normalizedProtocol = f.normalizedProtocol := by
  rw [Entry.normalizedProtocol, Entry.normalizedProtocol, h.protocol]

theorem isEnabled (h : e.Same f) : e.isEnabled = f.isEnabled := by
  rw [Entry.isEnabled, Entry.isEnabled, h.enable]

theorem nameText (h : e.Same f) (field : Field) : e.nameText field = f.nameText field := by
  cases field <;> simp only [Entry.nameText, h.id, h.password, h.email]

theorem identifier (h : e.Same f) : e.identifier = f.identifier := by
  have hname : e.nameText = f.nameText := funext h.nameText
  rw [Entry.identifier, Entry.identifier, hname, family, family, h.protocol]

theorem identity? (h : e.Same f) : e.identity? = f.identity? := by
  rw [Entry.identity?, Entry.identity?, h.normalizedEmail, h.identifier, h.normalizedProtocol]

theorem locator (h : e.Same f) : e.locator = f.locator := by
  simp only [Entry.locator, address, h.serverId, h.inboundId, h.normalizedProtocol, h.identifier,
    h.normalizedEmail]

theorem value (h : e.Same f) (field : Field) : (field.value e).Same (field.value f) := by
  cases field <;>
    simp only [FieldValue.Same, Field.value, FieldValue.ofText, FieldValue.key, h.id, h.password,
      h.expiryTime, h.totalGB, h.isEnabled, h.limitIp, h.flow, h.subId, h.email]

theorem hasCredential (h : e.Same f) (family : CredentialFamily) :
    SubGroup.hasCredential family e = SubGroup.hasCredential family f := by
  have hkey : ∀ field : Field, (field.value e).key = (field.value f).key := h.value
  simp only [SubGroup.hasCredential, hkey]

theorem toValue_ofSource (h : e.Same f) (family : CredentialFamily) :
    (ClientValues.ofSource family e).toValue = (ClientValues.ofSource family f).toValue := by
  simp only [ClientValues.toValue, ClientValues.ofSource, h.id, h.password, h.email, h.isEnabled,
    h.tgId, h.subId, h.flow, Binary64.ofBinary64_eq_iff.mpr h.totalGB,
    Binary64.ofBinary64_eq_iff.mpr h.expiryTime, Binary64.ofBinary64_eq_iff.mpr h.limitIp]

end Same

structure Matches (ordered : Prop) (e f : Entry) : Prop where
  same : e.Same f
  score : ordered → e.score = f.score

end Entry

variable {ordered : Prop} {cs ds : List Entry}

structure Member.Alike (m n : Member) : Prop where
  locator : m.locator = n.locator
  same : m.entry.Same n.entry

structure Candidate.Alike (c d : Candidate) : Prop where
  rank : c.rank = d.rank
  locator : c.locator = d.locator
  serverId : c.serverId = d.serverId
  serverName : c.serverName = d.serverName
  inboundRemark : c.inboundRemark = d.inboundRemark
  enable : c.enable = d.enable
  expiryTime : c.expiryTime.foldZero = d.expiryTime.foldZero
  totalGB : c.totalGB.foldZero = d.totalGB.foldZero
  limitIp : c.limitIp.foldZero = d.limitIp.foldZero

structure FieldDiff.Alike (x y : FieldDiff) : Prop where
  field : x.field = y.field
  values : List.Forall₂ FieldValue.Same x.values y.values

def Comparison.Alike (c d : Comparison) : Prop :=
  List.Forall₂ FieldDiff.Alike c.fieldDiffs d.fieldDiffs

structure SubGroup.Alike (ordered : Prop) (s t : SubGroup) : Prop where
  protocol : s.protocol = t.protocol
  family : s.family = t.family
  members : List.Forall₂ Member.Alike s.members t.members
  comparison : s.comparison.Alike t.comparison
  ranked : ordered → List.Forall₂ Candidate.Alike s.ranked t.ranked
  recommended : ordered → s.recommended = t.recommended

theorem rel_distinctValues (h : List.Forall₂ (Entry.Matches ordered) cs ds) (field : Field) :
    List.Forall₂ FieldValue.Same (distinctValues field cs) (distinctValues field ds) := by
  have hvalues : List.Forall₂ FieldValue.Same (cs.map field.value) (ds.map field.value) := by
    rw [List.forall₂_map_left_iff, List.forall₂_map_right_iff]
    exact h.imp fun _ _ he => he.same.value field
  exact rel_firstByKey hvalues id

theorem compareCopies_alike (h : List.Forall₂ (Entry.Matches ordered) cs ds) (protocol : String)
    (kind : IdentityKind) :
    (compareCopies protocol kind cs).Alike (compareCopies protocol kind ds) :=
  rel_compareCopies (fun field => ⟨rfl, rel_distinctValues h field⟩)
    (fun hxy => hxy.values.length_eq) protocol kind

namespace Comparison.Alike

variable {c d : Comparison}

theorem diffFields (h : c.Alike d) : c.diffFields = d.diffFields :=
  map_eq_map_of_rel h fun hxy => hxy.field

theorem hasConflict (h : c.Alike d) : c.hasConflict = d.hasConflict :=
  hasConflict_congr h.diffFields

theorem hasCredentialConflict (h : c.Alike d) :
    c.hasCredentialConflict = d.hasCredentialConflict :=
  hasCredentialConflict_congr h.diffFields

end Comparison.Alike

theorem rank_matches (h : List.Forall₂ (Entry.Matches ordered) cs ds) (ho : ordered) :
    List.Forall₂ (Entry.Matches ordered) (rank cs) (rank ds) :=
  rel_mergeSort h fun he hf => by rw [he.score ho, hf.score ho]

theorem candidate_alike {e f : Entry} (h : e.Same f) (place : Nat) :
    (Candidate.ofEntry place e).Alike (Candidate.ofEntry place f) :=
  ⟨rfl, h.locator, h.serverId, h.serverName, h.inboundRemark, h.isEnabled, h.expiryTime, h.totalGB,
    h.limitIp⟩

theorem rel_ranked (h : List.Forall₂ (Entry.Matches ordered) cs ds) (ho : ordered) :
    List.Forall₂ Candidate.Alike ((rank cs).zipIdx.map fun (e, i) => Candidate.ofEntry i e)
      ((rank ds).zipIdx.map fun (e, i) => Candidate.ofEntry i e) := by
  rw [List.forall₂_map_left_iff, List.forall₂_map_right_iff]
  refine (rel_zipIdx (rank_matches h ho) 0).imp ?_
  rintro ⟨e, i⟩ ⟨f, j⟩ ⟨hef, rfl⟩
  exact candidate_alike hef.same i

theorem recommended_of_rel {cs ds : List Candidate} (h : List.Forall₂ Candidate.Alike cs ds) :
    (cs.head?.map (·.locator)).getD "" = (ds.head?.map (·.locator)).getD "" := by
  cases h with
  | nil => rfl
  | cons hc _ => exact hc.locator

theorem SubGroup.ofCopies?_alike (h : List.Forall₂ (Entry.Matches ordered) cs ds)
    (protocol : String) (kind : IdentityKind) :
    Option.Rel (SubGroup.Alike ordered) (SubGroup.ofCopies? protocol kind cs)
      (SubGroup.ofCopies? protocol kind ds) := by
  have hcomparison := compareCopies_alike h protocol kind
  simp only [SubGroup.ofCopies?, hcomparison.hasConflict]
  split_ifs
  · have hmembers : List.Forall₂ Member.Alike (cs.map Member.ofEntry) (ds.map Member.ofEntry) := by
      rw [List.forall₂_map_left_iff, List.forall₂_map_right_iff]
      exact h.imp fun _ _ he => ⟨he.same.locator, he.same⟩
    exact .some ⟨rfl, rfl, hmembers, hcomparison, rel_ranked h,
      fun ho => recommended_of_rel (rel_ranked h ho)⟩
  · exact .none

structure Group.Alike (ordered : Prop) (g h : Group) : Prop where
  identity : g.identity = h.identity
  severity : g.severity = h.severity
  size : g.size = h.size
  subGroups : List.Forall₂ (SubGroup.Alike ordered) g.subGroups h.subGroups

theorem Group.ofIdentityGroup?_alike {g h : IdentityGroup Entry}
    (hidentity : g.identity = h.identity)
    (hmembers : List.Forall₂ (Entry.Matches ordered) g.members h.members) :
    Option.Rel (Group.Alike ordered) (Group.ofIdentityGroup? g) (Group.ofIdentityGroup? h) := by
  have hsub : List.Forall₂ (SubGroup.Alike ordered) g.subGroups h.subGroups := by
    refine List.rel_filterMap (fun p q hpq => ?_)
      (rel_protocolGroups hmembers fun he => he.same.normalizedProtocol)
    rw [hpq.1, hidentity]
    exact SubGroup.ofCopies?_alike hpq.2 _ _
  have hempty := isEmpty_eq_isEmpty_of_rel hsub
  have hhigh : g.subGroups.any (fun s => s.comparison.hasCredentialConflict) =
      h.subGroups.any fun s => s.comparison.hasCredentialConflict :=
    any_eq_any_of_rel hsub fun hst => hst.comparison.hasCredentialConflict
  rw [Group.ofIdentityGroup?_eq, Group.ofIdentityGroup?_eq, hempty, hhigh]
  split_ifs
  · exact .none
  · exact .some ⟨hidentity, rfl, hmembers.length_eq, hsub⟩
  · exact .some ⟨hidentity, rfl, hmembers.length_eq, hsub⟩

structure Report.Alike (ordered : Prop) (r q : Report) : Prop where
  fingerprint : r.fingerprint = q.fingerprint
  summary : r.summary = q.summary
  groups : List.Forall₂ (Group.Alike ordered) r.groups q.groups

theorem Report.ofEntries_alike (h : List.Forall₂ (Entry.Matches ordered) cs ds)
    (hf : Snapshot.fingerprint cs = Snapshot.fingerprint ds) :
    (Report.ofEntries cs).Alike ordered (Report.ofEntries ds) := by
  have hidentities := @rel_identityGroups _ _ _ _ _ id id h fun he => he.same.identity?
  have hgroups : List.Forall₂ (Group.Alike ordered) (Report.ofEntries cs).groups
      (Report.ofEntries ds).groups := by
    refine rel_mergeSort (List.rel_filterMap (fun g g' hg => ?_) hidentities) fun hg hg' => ?_
    · exact Group.ofIdentityGroup?_alike hg.1 hg.2
    · simp only [Group.precedes, hg.severity, hg.size, hg'.severity, hg'.size]
  have hunidentifiable : unidentifiable cs = unidentifiable ds :=
    countP_eq_countP_of_rel h fun he => by rw [he.same.identity?]
  have hhigh : (Report.ofEntries cs).groups.countP (fun g => g.severity = .high) =
      (Report.ofEntries ds).groups.countP fun g => g.severity = .high :=
    countP_eq_countP_of_rel hgroups fun hg => by rw [hg.severity]
  refine ⟨hf, ?_, hgroups⟩
  rw [summary_ofEntries, summary_ofEntries, h.length_eq, hunidentifiable, hidentities.length_eq,
    hgroups.length_eq, hhigh]

structure Plan.Alike (p q : Plan) : Prop where
  basedOn : p.basedOn = q.basedOn
  sourceLocator : p.sourceLocator = q.sourceLocator
  sourceChoice : p.sourceChoice = q.sourceChoice
  targets : p.targets = q.targets
  client : p.client.toValue = q.client.toValue
  source : p.source.Same q.source

theorem Plan.Alike.toValue {p q : Plan} (h : p.Alike q) : p.toValue = q.toValue := by
  rw [Plan.toValue, Plan.toValue, h.basedOn, h.sourceLocator, h.sourceChoice, h.targets, h.client]

inductive PlanOutcome.Alike : PlanOutcome → PlanOutcome → Prop
  | ready {p q : Plan} (h : p.Alike q) : Alike (.ready p) (.ready q)
  | alreadyConverged : Alike .alreadyConverged .alreadyConverged
  | missingCredential (source : Locator) :
    Alike (.missingCredential source) (.missingCredential source)

inductive PlanResult.Alike :
    Except PlanError PlanOutcome → Except PlanError PlanOutcome → Prop
  | error (e : PlanError) : Alike (.error e) (.error e)
  | ok {o o' : PlanOutcome} (h : o.Alike o') : Alike (.ok o) (.ok o')

theorem Member.Alike.target {m n : Member} (h : m.Alike n) :
    Target.ofMember m = Target.ofMember n := by
  simp only [Target.ofMember, h.locator, h.same.serverId, h.same.serverName, h.same.inboundId,
    h.same.normalizedProtocol, h.same.email, h.same.identifier]

namespace SubGroup.Alike

variable {s t : SubGroup}

theorem targetsBeside (h : s.Alike ordered t) (locator : Locator) :
    s.targetsBeside locator = t.targetsBeside locator :=
  map_eq_map_of_rel (rel_filter h.members fun hm => by rw [hm.locator]) fun hm => hm.target

theorem readyPlan (h : s.Alike ordered t) {m n : Member} (hm : m.Alike n) (choice : SourceChoice)
    (basedOn : Fingerprint) :
    (s.readyPlan m choice basedOn).Alike (t.readyPlan n choice basedOn) where
  basedOn := rfl
  sourceLocator := hm.locator
  sourceChoice := rfl
  targets := by rw [readyPlan_targets, readyPlan_targets, hm.locator, h.targetsBeside]
  client := by rw [readyPlan_client, readyPlan_client, h.protocol, hm.same.toValue_ofSource]
  source := hm.same

theorem planFrom (h : s.Alike ordered t) {m n : Member} (hm : m.Alike n) (choice : SourceChoice)
    (basedOn : Fingerprint) :
    (s.planFrom m choice basedOn).Alike (t.planFrom n choice basedOn) := by
  rw [planFrom_eq, planFrom_eq, h.protocol, hm.same.hasCredential, hm.locator, h.targetsBeside]
  split_ifs
  · exact .alreadyConverged
  · exact .ready (h.readyPlan hm choice basedOn)
  · exact .missingCredential _

theorem planWith (h : s.Alike ordered t) (source : Locator) (choice : SourceChoice)
    (basedOn : Fingerprint) :
    PlanResult.Alike (s.planWith source choice basedOn) (t.planWith source choice basedOn) := by
  have hmember : Option.Rel Member.Alike (s.member? source) (t.member? source) :=
    rel_find? h.members fun hm => by rw [hm.locator]
  rw [SubGroup.planWith, SubGroup.planWith, h.protocol]
  generalize s.member? source = a, t.member? source = b at hmember
  cases hmember with
  | none => exact .error _
  | some hm => exact .ok (h.planFrom hm choice basedOn)

end SubGroup.Alike

/-- Every query is planned alike, for a recommended source if the order of copies is the same. -/
theorem Report.Alike.plan {r q : Report} (h : r.Alike ordered q) (identity protocol : String)
    {source : Option Locator} (ho : source = none → ordered) :
    PlanResult.Alike (r.plan identity protocol source) (q.plan identity protocol source) := by
  have hgroup : Option.Rel (Group.Alike ordered) (r.group? identity) (q.group? identity) :=
    rel_find? h.groups fun hg => by rw [hg.identity]
  rw [Report.plan, Report.plan]
  generalize r.group? identity = a, q.group? identity = b at hgroup
  cases hgroup with
  | none => exact .error _
  | @some g g' hg =>
    have hsub : Option.Rel (SubGroup.Alike ordered) (g.subGroup? protocol)
        (g'.subGroup? protocol) := rel_find? hg.subGroups fun hs => by rw [hs.protocol]
    dsimp only
    generalize g.subGroup? protocol = a, g'.subGroup? protocol = b at hsub
    cases hsub with
    | none => exact .error _
    | some hs =>
      cases source with
      | none =>
        dsimp only
        rw [SubGroup.recommendedPlan, SubGroup.recommendedPlan, hs.recommended (ho rfl),
          h.fingerprint]
        exact hs.planWith _ _ _
      | some locator =>
        dsimp only
        rw [SubGroup.plan, SubGroup.plan, h.fingerprint]
        exact hs.planWith _ _ _

end FleetDrift
