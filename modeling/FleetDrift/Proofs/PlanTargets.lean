import FleetDrift.Proofs.Planning

/-! # The targets of a plan
A plan targets members by their locators: those with another locator than the source are targets,
and those with the same one are not, however much they differ. A sub-group in which a locator occurs
once is covered up to its source. -/
namespace FleetDrift

namespace SubGroup

variable {s : SubGroup}

def occurrences (s : SubGroup) (locator : Locator) : Nat :=
  s.members.countP fun m => m.locator = locator

theorem length_targetsBeside (s : SubGroup) (locator : Locator) :
    (s.targetsBeside locator).length + s.occurrences locator = s.size := by
  have hsplit := List.length_eq_countP_add_countP (l := s.members) fun m => m.locator = locator
  rw [size, targetsBeside, List.length_map, ← List.countP_eq_length_filter, occurrences, hsplit,
    Nat.add_comm]
  simp

theorem occurrences_pos {m : Member} (h : m ∈ s.members) : 0 < s.occurrences m.locator :=
  List.countP_pos_iff.mpr ⟨m, h, by simp⟩

end SubGroup

variable {entries : List Entry} {s : SubGroup} {m : Member}

inductive SubGroup.PlansFrom (s : SubGroup) (locator : Locator) (source : Member) :
    Except PlanError PlanOutcome → Prop where
  | missing (blank : hasCredential (.ofProtocol s.protocol) source.entry = false) :
      s.PlansFrom locator source (.ok (.missingCredential locator))
  | ready (plan : Plan) (credential : hasCredential (.ofProtocol s.protocol) source.entry = true)
      (made : plan.source = source.entry) (targets : plan.targets = s.targetsBeside locator)
      (count : plan.targets.length = s.size - s.occurrences locator)
      (remaining : s.occurrences locator < s.size)
      (apart : ∀ t ∈ plan.targets, t.locator ≠ locator) :
      s.PlansFrom locator source (.ok (.ready plan))
  | converged (credential : hasCredential (.ofProtocol s.protocol) source.entry = true)
      (all : s.occurrences locator = s.size) :
      s.PlansFrom locator source (.ok .alreadyConverged)

theorem SubGroup.plan_plansFrom {locator : Locator} {source : Member}
    (h : s.member? locator = some source) (basedOn : Fingerprint) :
    s.PlansFrom locator source (s.plan locator basedOn) := by
  have hplan : s.plan locator basedOn = .ok (s.planFrom source .explicit basedOn) :=
    planWith_eq_ok_iff.mpr ⟨source, h, rfl⟩
  have hlen := length_targetsBeside s locator
  rw [hplan, planFrom_eq, (member?_spec h).2]
  split
  · next hc =>
    split
    · next hnil =>
      rw [hnil, List.length_nil, Nat.zero_add] at hlen
      exact .converged hc hlen
    · next hne =>
      have hpos := List.length_pos_of_ne_nil hne
      have htargets : (s.readyPlan source .explicit basedOn).targets = s.targetsBeside locator := by
        rw [readyPlan_targets, (member?_spec h).2]
      refine .ready _ hc readyPlan_source htargets ?_ (by omega) ?_
      · rw [htargets]
        omega
      · rw [htargets]
        exact fun t ht => locator_ne_of_mem_targetsBeside ht
  · next hc => exact .missing (Bool.eq_false_iff.mpr hc)

/-- All members are targets but those at the source's own locator. -/
theorem plan_covers_other_locators {g : Group} (hg : g ∈ (Report.ofEntries entries).groups)
    (hs : s ∈ g.subGroups) (hm : m ∈ s.members) (basedOn : Fingerprint) :
    2 ≤ s.size ∧ 0 < s.occurrences m.locator ∧ ∃ source, s.member? m.locator = some source ∧
      s.PlansFrom m.locator source (s.plan m.locator basedOn) := by
  obtain ⟨source, h⟩ := SubGroup.exists_member? hm
  refine ⟨Report.two_le_size (Report.mem_listing.mpr ⟨g, hg, rfl, hs⟩), ?_, source, h, ?_⟩
  · exact SubGroup.occurrences_pos hm
  · exact SubGroup.plan_plansFrom h basedOn

theorem plan_covers_other_locators_drifting :
    ∃ g ∈ (Report.ofEntries driftingCopies).groups, ∃ s ∈ g.subGroups, ∃ m ∈ s.members,
      2 ≤ s.size ∧ 0 < s.occurrences m.locator ∧ ∃ source, s.member? m.locator = some source ∧
        s.PlansFrom m.locator source
          (s.plan m.locator (Report.ofEntries driftingCopies).fingerprint) := by
  obtain ⟨g, hg, -, hs⟩ := Report.mem_listing.mp driftingGroup_listed
  have hm : Member.ofEntry (vlessCopy "a" "u1" true 1000) ∈ driftingGroup.members :=
    List.mem_cons_self
  exact ⟨g, hg, driftingGroup, hs, _, hm, plan_covers_other_locators hg hs hm _⟩

/-- Two records of one address that differ in expiry. -/
def repeatedCopies : List Entry := [vlessCopy "a" "u1" true 1000, vlessCopy "a" "u1" true 2000]

def repeatedGroup : SubGroup := .ofDisagreeing "vless" .email repeatedCopies

/-- The copies disagree, and there is nothing to plan. -/
theorem repeated_locator_converged :
    ∃ g ∈ (Report.ofEntries repeatedCopies).groups, ∃ s ∈ g.subGroups, ∃ m ∈ s.members,
      s.plan m.locator (Report.ofEntries repeatedCopies).fingerprint = .ok .alreadyConverged := by
  obtain ⟨g, hg, -, hs⟩ := Report.mem_listing.mp
    (Report.listing_of_one_client (K := ⟨.email, "u@x.io"⟩) (p := "vless") repeatedCopies
      (by decide +kernel) (by decide +kernel))
  have hm : Member.ofEntry (vlessCopy "a" "u1" true 1000) ∈ repeatedGroup.members :=
    List.mem_cons_self
  have hcredential : ∀ m ∈ repeatedGroup.members,
      SubGroup.hasCredential (.ofProtocol repeatedGroup.protocol) m.entry = true := by
    decide +kernel
  have hsame : ∀ m ∈ repeatedGroup.members, ∀ o ∈ repeatedGroup.members,
      o.locator = m.locator := by decide +kernel
  obtain ⟨source, hsource⟩ := SubGroup.exists_member? hm
  have hmem := (SubGroup.member?_spec hsource).1
  refine ⟨g, hg, repeatedGroup, hs, _, hm,
    SubGroup.planWith_eq_ok_iff.mpr ⟨source, hsource, ?_⟩⟩
  rw [SubGroup.planFrom_eq, if_pos (hcredential source hmem),
    if_pos (SubGroup.targetsBeside_eq_nil_iff.mpr (hsame source hmem))]

end FleetDrift
