import FleetDrift.Plan.Basic
import FleetDrift.Proofs.ReportContents

/-! # What planning can do
Planning resolves a locator to the first member that has it, and what follows depends on that member
alone: whether it has a credential, and which members have another locator. -/
namespace FleetDrift

namespace SubGroup

variable {s : SubGroup} {m : Member} {choice : SourceChoice} {basedOn : Fingerprint}

def targetsBeside (s : SubGroup) (locator : Locator) : List Target :=
  (s.members.filter fun m => m.locator ≠ locator).map Target.ofMember

def readyPlan (s : SubGroup) (source : Member) (choice : SourceChoice) (basedOn : Fingerprint) :
    Plan where
  basedOn := basedOn
  sourceLocator := source.locator
  sourceChoice := choice
  targets := s.targetsBeside source.locator
  client := .ofSource (.ofProtocol s.protocol) source.entry
  source := source.entry

@[simp] theorem readyPlan_targets :
    (s.readyPlan m choice basedOn).targets = s.targetsBeside m.locator := rfl

@[simp] theorem readyPlan_source : (s.readyPlan m choice basedOn).source = m.entry := rfl

@[simp] theorem readyPlan_client : (s.readyPlan m choice basedOn).client =
    .ofSource (.ofProtocol s.protocol) m.entry := by
  simp only [readyPlan]

@[simp] theorem readyPlan_sourceLocator :
    (s.readyPlan m choice basedOn).sourceLocator = m.locator := rfl

@[simp] theorem readyPlan_sourceChoice :
    (s.readyPlan m choice basedOn).sourceChoice = choice := rfl

theorem planFrom_eq : s.planFrom m choice basedOn =
    if hasCredential (.ofProtocol s.protocol) m.entry then
      if s.targetsBeside m.locator = [] then .alreadyConverged
      else .ready (s.readyPlan m choice basedOn)
    else .missingCredential m.locator := by
  simp only [planFrom, ← List.isEmpty_iff]
  rfl

theorem targetsBeside_eq_nil_iff {locator : Locator} :
    s.targetsBeside locator = [] ↔ ∀ m ∈ s.members, m.locator = locator := by
  simp [targetsBeside]

theorem mem_targetsBeside {locator : Locator} {t : Target} : t ∈ s.targetsBeside locator ↔
    ∃ m ∈ s.members, m.locator ≠ locator ∧ Target.ofMember m = t := by
  simp [targetsBeside, and_assoc]

theorem locator_ne_of_mem_targetsBeside {locator : Locator} {t : Target}
    (h : t ∈ s.targetsBeside locator) : t.locator ≠ locator := by
  obtain ⟨m, -, hne, rfl⟩ := mem_targetsBeside.mp h
  exact hne

theorem mem_targetsBeside_locators {locator other : Locator} :
    other ∈ (s.targetsBeside locator).map (·.locator) ↔
      other ≠ locator ∧ ∃ m ∈ s.members, m.locator = other := by
  rw [List.mem_map]
  constructor
  · rintro ⟨t, ht, rfl⟩
    obtain ⟨m, hm, hne, rfl⟩ := mem_targetsBeside.mp ht
    exact ⟨hne, m, hm, rfl⟩
  · rintro ⟨hne, m, hm, rfl⟩
    exact ⟨.ofMember m, mem_targetsBeside.mpr ⟨m, hm, hne, rfl⟩, rfl⟩

theorem planFrom_eq_ready_iff {plan : Plan} : s.planFrom m choice basedOn = .ready plan ↔
    hasCredential (.ofProtocol s.protocol) m.entry = true ∧ s.targetsBeside m.locator ≠ [] ∧
      s.readyPlan m choice basedOn = plan := by
  rw [planFrom_eq]
  split
  · split <;> simp_all
  · simp_all

theorem planWith_eq_ok_iff {locator : Locator} {outcome : PlanOutcome} :
    s.planWith locator choice basedOn = .ok outcome ↔
      ∃ m, s.member? locator = some m ∧ s.planFrom m choice basedOn = outcome := by
  unfold planWith
  split
  · next m hm => simp [hm]
  · next hm => simp [hm]

theorem planWith_of_member?_eq_none {locator : Locator} (h : s.member? locator = none) :
    s.planWith locator choice basedOn = .error (.unknownSource locator s.protocol) := by
  rw [planWith, h]

theorem member?_spec {locator : Locator} (h : s.member? locator = some m) :
    m ∈ s.members ∧ m.locator = locator :=
  ⟨List.mem_of_find?_eq_some h, by simpa using List.find?_some h⟩

theorem exists_member? (h : m ∈ s.members) : ∃ first, s.member? m.locator = some first := by
  rw [← Option.isSome_iff_exists, member?, List.find?_isSome]
  exact ⟨m, h, by simp⟩

/-- A plan that is ready, with the recommended source or with one that was asked for. -/
def Yields (s : SubGroup) (basedOn : Fingerprint) (plan : Plan) : Prop :=
  s.recommendedPlan basedOn = .ok (.ready plan) ∨
    ∃ locator, s.plan locator basedOn = .ok (.ready plan)

theorem planWith_ready {locator : Locator} {plan : Plan}
    (h : s.planWith locator choice basedOn = .ok (.ready plan)) :
    ∃ m, s.member? locator = some m ∧ hasCredential (.ofProtocol s.protocol) m.entry = true ∧
      s.targetsBeside locator ≠ [] ∧ plan = s.readyPlan m choice basedOn := by
  obtain ⟨m, hm, hp⟩ := planWith_eq_ok_iff.mp h
  obtain ⟨hc, ht, rfl⟩ := planFrom_eq_ready_iff.mp hp
  rw [(member?_spec hm).2] at ht
  exact ⟨m, hm, hc, ht, rfl⟩

theorem Yields.exists_planWith {plan : Plan} (h : s.Yields basedOn plan) :
    ∃ locator choice, s.planWith locator choice basedOn = .ok (.ready plan) := by
  rcases h with h | ⟨locator, h⟩
  · exact ⟨s.recommended, .recommended, h⟩
  · exact ⟨locator, .explicit, h⟩

theorem Yields.exists_source {plan : Plan} (h : s.Yields basedOn plan) :
    ∃ m ∈ s.members, ∃ choice, plan = s.readyPlan m choice basedOn := by
  obtain ⟨locator, choice, hp⟩ := h.exists_planWith
  obtain ⟨m, hm, -, -, rfl⟩ := planWith_ready hp
  exact ⟨m, (member?_spec hm).1, choice, rfl⟩

theorem planFrom_ready (choice : SourceChoice) (basedOn : Fingerprint)
    (hc : hasCredential (.ofProtocol s.protocol) m.entry = true)
    (ho : ∃ other ∈ s.members, other.locator ≠ m.locator) :
    s.planFrom m choice basedOn = .ready (s.readyPlan m choice basedOn) := by
  refine planFrom_eq_ready_iff.mpr ⟨hc, ?_, rfl⟩
  rw [ne_eq, targetsBeside_eq_nil_iff]
  obtain ⟨other, hom, hne⟩ := ho
  exact fun h => hne (h other hom)

/-- Where every copy has a credential, any copy is a source for those at other addresses. -/
theorem exists_ready_plan (choice : SourceChoice) (basedOn : Fingerprint) (hm : m ∈ s.members)
    (hc : ∀ m ∈ s.members, hasCredential (.ofProtocol s.protocol) m.entry = true)
    (ho : ∃ other ∈ s.members, other.locator ≠ m.locator) :
    ∃ plan, s.planWith m.locator choice basedOn = .ok (.ready plan) := by
  obtain ⟨first, hf⟩ := exists_member? hm
  obtain ⟨hmem, hloc⟩ := member?_spec hf
  rw [← hloc] at ho
  exact ⟨_, planWith_eq_ok_iff.mpr ⟨first, hf, planFrom_ready choice basedOn (hc first hmem) ho⟩⟩

end SubGroup

def vlessCopy (server id : String) (enabled : Bool) (expiry : Int) : Entry where
  serverId := server
  serverName := server
  inboundId := 1
  inboundRemark := ""
  protocol := "vless"
  email := some "u@x.io"
  id := id
  password := ""
  expiryTime := .ofInt expiry
  totalGB := .zero
  enable := some enabled
  limitIp := .zero
  flow := ""
  subId := ""
  tgId := .null

def driftingCopies : List Entry :=
  [vlessCopy "a" "u1" true 1000, vlessCopy "b" "u1" true 2000, vlessCopy "c" "u2" false 3000]

def driftingGroup : SubGroup := .ofDisagreeing "vless" .email driftingCopies

theorem driftingGroup_listed :
    (⟨.email, "u@x.io"⟩, driftingGroup) ∈ (Report.ofEntries driftingCopies).listing :=
  Report.listing_of_one_client driftingCopies (by decide +kernel) (by decide +kernel)

theorem driftingGroup_ready (choice : SourceChoice) (basedOn : Fingerprint) {e : Entry}
    (he : e ∈ driftingCopies) :
    ∃ plan, driftingGroup.planWith e.locator choice basedOn = .ok (.ready plan) := by
  have hm : Member.ofEntry e ∈ driftingGroup.members := List.mem_map_of_mem he
  have hother : ∀ e ∈ driftingCopies,
      ∃ other ∈ driftingGroup.members, other.locator ≠ e.locator := by decide +kernel
  rw [← Member.locator_ofEntry]
  refine SubGroup.exists_ready_plan choice basedOn hm (by decide +kernel) ?_
  rw [Member.locator_ofEntry]
  exact hother e he

end FleetDrift
