import FleetDrift.Proofs.Planning
import FleetDrift.Proofs.Ranking

/-! # The source of a recommended plan
The recommendation is the locator of the best copy, and planning looks the locator up again. The
first copy in member order that has it becomes the source, so a copy listed before the best one
under the same locator takes its place. -/
namespace FleetDrift

variable {entries : List Entry} {K : Identity} {s : SubGroup} {before after : List Entry}
  {top : Entry}

theorem SubGroup.recommended_ofDisagreeing {p : String} {kind : IdentityKind} {cs : List Entry}
    (h : (rank cs).head? = some top) :
    (SubGroup.ofDisagreeing p kind cs).recommended = top.locator := by
  simp only [SubGroup.ofDisagreeing, List.head?_map, List.head?_zipIdx, h]
  rfl

theorem SubGroup.head?_rank (hc : s.copies = before ++ top :: after)
    (hbest : FirstGreatest Entry.score before top after) :
    (rank s.copies).head? = some top := by
  rw [hc]
  exact head?_rankBy hbest

theorem Report.recommended_eq (h : (K, s) ∈ (Report.ofEntries entries).listing)
    (hc : s.copies = before ++ top :: after)
    (hbest : FirstGreatest Entry.score before top after) : s.recommended = top.locator := by
  have hr := SubGroup.head?_rank hc hbest
  rw [Report.copies_eq h] at hr
  exact (congrArg SubGroup.recommended (Report.eq_ofDisagreeing h)).trans
    (SubGroup.recommended_ofDisagreeing hr)

theorem Report.member?_eq (h : (K, s) ∈ (Report.ofEntries entries).listing) (locator : Locator) :
    s.member? locator = (s.copies.find? (·.locator = locator)).map Member.ofEntry := by
  rw [SubGroup.member?, Report.members_eq h, List.find?_map]
  simp only [Function.comp_def, Member.locator_ofEntry]

/-- The best copy answers to its locator exactly when no earlier copy does. -/
theorem find?_top_iff (hg : FirstGreatest Entry.score before top after) :
    (before ++ top :: after).find? (·.locator = top.locator) = some top ↔
      ∀ e ∈ before, e.locator ≠ top.locator := by
  constructor
  · intro hf e he hl
    rw [List.find?_append] at hf
    obtain ⟨x, hx⟩ : ∃ x, before.find? (·.locator = top.locator) = some x := by
      rw [← Option.isSome_iff_exists, List.find?_isSome]
      exact ⟨e, he, decide_eq_true hl⟩
    rw [hx, Option.some_or, Option.some.injEq] at hf
    -- the earlier copy has a lower score than itself
    exact absurd (hg.above x (List.mem_of_find?_eq_some hx)) (hf ▸ lt_irrefl _)
  · intro hb
    have hnone : before.find? (·.locator = top.locator) = none := by
      rw [List.find?_eq_none]
      exact fun e he => by simpa using hb e he
    rw [List.find?_append, hnone, Option.none_or, List.find?_cons_of_pos (by simp)]

/-- How a recommended plan stands to the best of the copies. It is the best copy's plan exactly when
no copy listed before that one has its locator. -/
structure SubGroup.RecommendedFrom (s : SubGroup) (plan : Plan) (before : List Entry) (top : Entry)
    (after : List Entry) : Prop where
  copies : s.copies = before ++ top :: after
  best : FirstGreatest Entry.score before top after
  ranked : (rank s.copies).head? = some top
  resolved : s.copies.find? (·.locator = top.locator) = some plan.source
  faithful : (plan.source = top ∧ plan.client = .ofSource s.family top ∧
      ((∃ e ∈ s.copies, e.isEnabled = true) → plan.client.enable = true)) ↔
    ∀ e ∈ before, e.locator ≠ top.locator

/-- Resolving the recommendation can miss the best copy, and it does so in one way only. -/
theorem recommended_source_is_top_iff {g : Group} (hg : g ∈ (Report.ofEntries entries).groups)
    (hs : s ∈ g.subGroups) {basedOn : Fingerprint} {plan : Plan}
    (ready : s.recommendedPlan basedOn = .ok (.ready plan)) :
    ∃ before top after, s.RecommendedFrom plan before top after := by
  have h := Report.mem_listing.mpr ⟨g, hg, rfl, hs⟩
  obtain ⟨before, top, after, hc, hbest⟩ := exists_firstGreatest Entry.score (Report.copies_ne_nil h)
  obtain ⟨m, hm, -, -, rfl⟩ := SubGroup.planWith_ready ready
  rw [Report.recommended_eq h hc hbest, Report.member?_eq h, Option.map_eq_some_iff] at hm
  obtain ⟨e, he, rfl⟩ := hm
  have htop : e = top ↔ ∀ e ∈ before, e.locator ≠ top.locator := by
    rw [← find?_top_iff hbest, ← hc, he, Option.some.injEq]
  refine ⟨before, top, after, hc, hbest, SubGroup.head?_rank hc hbest, he, ?_⟩
  rw [SubGroup.readyPlan_source, SubGroup.readyPlan_client, ← Report.family_eq h, ← htop]
  constructor
  · exact fun hclaim => hclaim.1
  · rintro rfl
    refine ⟨rfl, rfl, ?_⟩
    rintro ⟨x, hx, hen⟩
    exact Entry.isEnabled_of_score_le (hbest.le (hc ▸ hx)) hen

theorem recommended_source_is_top_drifting :
    ∃ g ∈ (Report.ofEntries driftingCopies).groups, ∃ s ∈ g.subGroups, ∃ plan,
      s.recommendedPlan (Report.ofEntries driftingCopies).fingerprint = .ok (.ready plan) ∧
      ∃ before top after, s.RecommendedFrom plan before top after := by
  obtain ⟨g, hg, -, hs⟩ := Report.mem_listing.mp driftingGroup_listed
  have hbest : FirstGreatest Entry.score [vlessCopy "a" "u1" true 1000]
      (vlessCopy "b" "u1" true 2000) [vlessCopy "c" "u2" false 3000] :=
    ⟨by decide +kernel, by decide +kernel⟩
  obtain ⟨plan, hp⟩ := driftingGroup_ready .recommended
    (Report.ofEntries driftingCopies).fingerprint
    (List.mem_of_mem_tail (List.mem_cons_self (a := vlessCopy "b" "u1" true 2000)))
  have hc : driftingGroup.copies = [vlessCopy "a" "u1" true 1000] ++ vlessCopy "b" "u1" true 2000 ::
      [vlessCopy "c" "u2" false 3000] := SubGroup.copies_ofDisagreeing
  rw [← Report.recommended_eq driftingGroup_listed hc hbest] at hp
  exact ⟨g, hg, driftingGroup, hs, plan, hp, recommended_source_is_top_iff hg hs hp⟩

/-- Two records of one address, of which the later one is the best copy. -/
def shadowedCopies : List Entry :=
  [vlessCopy "a" "u1" false 1000, vlessCopy "a" "u1" true 2000, vlessCopy "b" "u1" true 1000]

def shadowedGroup : SubGroup := .ofDisagreeing "vless" .email shadowedCopies

/-- The plan of the shadowed group is made from its disabled copy. -/
theorem recommended_source_shadowed :
    ∃ g ∈ (Report.ofEntries shadowedCopies).groups, ∃ s ∈ g.subGroups, ∃ plan,
      s.recommendedPlan (Report.ofEntries shadowedCopies).fingerprint = .ok (.ready plan) ∧
      (rank s.copies).head?.map Entry.isEnabled = some true ∧ plan.source.isEnabled = false ∧
      plan.client.enable = false := by
  have h : (⟨.email, "u@x.io"⟩, shadowedGroup) ∈ (Report.ofEntries shadowedCopies).listing :=
    Report.listing_of_one_client shadowedCopies (by decide +kernel) (by decide +kernel)
  obtain ⟨g, hg, -, hs⟩ := Report.mem_listing.mp h
  have hc : shadowedGroup.copies = [vlessCopy "a" "u1" false 1000] ++
      vlessCopy "a" "u1" true 2000 :: [vlessCopy "b" "u1" true 1000] :=
    SubGroup.copies_ofDisagreeing
  have hbest : FirstGreatest Entry.score [vlessCopy "a" "u1" false 1000]
      (vlessCopy "a" "u1" true 2000) [vlessCopy "b" "u1" true 1000] :=
    ⟨by decide +kernel, by decide +kernel⟩
  have hsame : (vlessCopy "a" "u1" false 1000).locator = (vlessCopy "a" "u1" true 2000).locator := by
    decide +kernel
  have hm : shadowedGroup.member? shadowedGroup.recommended =
      some (.ofEntry (vlessCopy "a" "u1" false 1000)) := by
    rw [Report.recommended_eq h hc hbest, Report.member?_eq h, hc, List.singleton_append]
    simp only [List.find?_cons, hsame, decide_true, Option.map_some]
  have hready : shadowedGroup.recommendedPlan (Report.ofEntries shadowedCopies).fingerprint =
      .ok (.ready (shadowedGroup.readyPlan (.ofEntry (vlessCopy "a" "u1" false 1000)) .recommended
        (Report.ofEntries shadowedCopies).fingerprint)) :=
    SubGroup.planWith_eq_ok_iff.mpr ⟨_, hm, SubGroup.planFrom_eq_ready_iff.mpr
      ⟨by decide +kernel, by decide +kernel, rfl⟩⟩
  refine ⟨g, hg, shadowedGroup, hs, _, hready, ?_, ?_, ?_⟩
  · rw [SubGroup.head?_rank hc hbest]
    rfl
  · rw [SubGroup.readyPlan_source]
    rfl
  · rw [SubGroup.readyPlan_client]
    rfl

end FleetDrift
