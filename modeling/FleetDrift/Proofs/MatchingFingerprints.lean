import FleetDrift.Proofs.Lookup
import FleetDrift.Proofs.MatchingReports
import FleetDrift.Proofs.PlanSource

/-!
# Plans under a matching fingerprint

A plan names the snapshot it was made from by a fingerprint. Where another snapshot is hashed as the
same text, a source that is asked for gives the same plan, and so does the recommended one unless
the three numbers of some entry are all negative zeros in one snapshot only: the ranking tells the
zeros apart and the text does not.
-/

namespace FleetDrift

open Number (Binary64)

variable {S T : List Entry}

def SameZeroSums (S T : List Entry) : Prop :=
  List.Forall₂ (fun e f => e.IsNegativeZero ↔ f.IsNegativeZero) S T

structure Replanned (S T : List Entry) : Prop where
  explicit : ∀ identity protocol locator,
    PlanResult.Alike ((Report.ofEntries S).plan identity protocol (some locator))
      ((Report.ofEntries T).plan identity protocol (some locator))
  ranked : SameZeroSums S T → (Report.ofEntries S).Alike True (Report.ofEntries T)
  planned : SameZeroSums S T → ∀ identity protocol source,
    PlanResult.Alike ((Report.ofEntries S).plan identity protocol source)
      ((Report.ofEntries T).plan identity protocol source)

theorem matches_of_same {ordered : Prop} (h : List.Forall₂ Entry.Same S T)
    (ho : ordered → SameZeroSums S T) : List.Forall₂ (Entry.Matches ordered) S T := by
  induction h with
  | nil => exact .nil
  | cons he _ ih =>
    refine .cons ⟨he, fun hord => ?_⟩ (ih fun hord => ?_)
    · cases ho hord with
      | cons hn _ => exact he.score_eq hn
    · cases ho hord with
      | cons _ hns => exact hns

/-- Snapshots of one text are planned alike, up to a ranking that tells the zeros apart. -/
theorem replanned_of_canonicalText (hS : ∀ e ∈ S, e.Finite) (hT : ∀ e ∈ T, e.Finite)
    (h : Snapshot.canonicalText S = Snapshot.canonicalText T) : Replanned S T := by
  have hsame := Snapshot.same_of_canonicalText hS hT h
  have hfingerprint : Snapshot.fingerprint S = Snapshot.fingerprint T := by
    rw [Snapshot.fingerprint, Snapshot.fingerprint, h]
  have hranked : SameZeroSums S T → (Report.ofEntries S).Alike True (Report.ofEntries T) :=
    fun hz => Report.ofEntries_alike (matches_of_same hsame fun _ => hz) hfingerprint
  refine ⟨fun identity protocol locator => ?_, hranked, fun hz identity protocol source => ?_⟩
  · have hgroups : (Report.ofEntries S).Alike False (Report.ofEntries T) :=
      Report.ofEntries_alike (matches_of_same hsame False.elim) hfingerprint
    exact hgroups.plan identity protocol fun hnone => nomatch hnone
  · exact (hranked hz).plan identity protocol fun _ => trivial

/-- Zeros of either sign beside other numbers. -/
theorem replanned_expiringCopies :
    Snapshot.canonicalText (Snapshot.expiringCopies .zero) =
        Snapshot.canonicalText (Snapshot.expiringCopies Binary64.zero.neg) ∧
      SameZeroSums (Snapshot.expiringCopies .zero) (Snapshot.expiringCopies Binary64.zero.neg) ∧
      Replanned (Snapshot.expiringCopies .zero) (Snapshot.expiringCopies Binary64.zero.neg) := by
  have htext := Snapshot.canonicalText_of_same Snapshot.same_expiringCopies
  have hz : SameZeroSums (Snapshot.expiringCopies .zero)
      (Snapshot.expiringCopies Binary64.zero.neg) :=
    .cons (by decide +kernel) (.cons Iff.rfl .nil)
  exact ⟨htext, hz, replanned_of_canonicalText
    (Snapshot.finite_expiringCopies _ (by decide +kernel))
    (Snapshot.finite_expiringCopies _ (by decide +kernel)) htext⟩

def unlimitedCopies (negative : Bool) : List Entry :=
  [{ vlessCopy "a" "u1" true 0 with
      expiryTime := Binary64.zero.withSign negative
      totalGB := Binary64.zero.withSign negative
      limitIp := Binary64.zero.withSign negative },
   vlessCopy "b" "u2" true 0]

def unlimitedGroup (negative : Bool) : SubGroup :=
  .ofDisagreeing "vless" .email (unlimitedCopies negative)

theorem Report.plan_of_one_client {entries : List Entry} {K : Identity} {s : SubGroup}
    (hall : ∀ e ∈ entries, e.HasIdentity K) (h : (K, s) ∈ (Report.ofEntries entries).listing) :
    (Report.ofEntries entries).plan K.value s.protocol none =
      s.recommendedPlan (Report.ofEntries entries).fingerprint := by
  obtain ⟨g, hg, hs⟩ := Report.lookup_of_one_client hall h
  exact (Report.plan_of_group? _ hg hs).1

theorem SubGroup.sourceLocator_of_planWith {s : SubGroup} {locator : Locator}
    {choice : SourceChoice} {basedOn : Fingerprint} {plan : Plan}
    (h : s.planWith locator choice basedOn = .ok (.ready plan)) : plan.sourceLocator = locator := by
  obtain ⟨m, hm, -, -, rfl⟩ := SubGroup.planWith_ready h
  exact readyPlan_sourceLocator.trans (member?_spec hm).2

theorem unlimitedGroup_listed (negative : Bool) : (⟨.email, "u@x.io"⟩, unlimitedGroup negative) ∈
    (Report.ofEntries (unlimitedCopies negative)).listing := by
  refine Report.listing_of_one_client _ ?_ ?_
  · cases negative <;> decide +kernel
  · cases negative <;> decide +kernel

theorem unlimitedCopies_plan (negative : Bool) {before after : List Entry} {top : Entry}
    (hc : unlimitedCopies negative = before ++ top :: after)
    (hbest : FirstGreatest Entry.score before top after) :
    ∃ plan, (Report.ofEntries (unlimitedCopies negative)).plan "u@x.io" "vless" none =
      .ok (.ready plan) ∧ plan.sourceLocator = top.locator := by
  have hl := unlimitedGroup_listed negative
  have hall : ∀ e ∈ unlimitedCopies negative, e.HasIdentity ⟨.email, "u@x.io"⟩ := by
    cases negative <;> decide +kernel
  have hcopies : (unlimitedGroup negative).copies = before ++ top :: after :=
    SubGroup.copies_ofDisagreeing.trans hc
  have hm : Member.ofEntry top ∈ (unlimitedGroup negative).members := by
    refine Report.ofEntry_mem_members hl ?_
    rw [hcopies]
    exact List.mem_append_right _ List.mem_cons_self
  have hcredential : ∀ m ∈ (unlimitedGroup negative).members,
      SubGroup.hasCredential (.ofProtocol (unlimitedGroup negative).protocol) m.entry = true := by
    cases negative <;> decide +kernel
  have hother : ∀ e ∈ unlimitedCopies negative,
      ∃ other ∈ (unlimitedGroup negative).members, other.locator ≠ e.locator := by
    cases negative <;> decide +kernel
  obtain ⟨plan, hplan⟩ := SubGroup.exists_ready_plan .recommended
    (Report.ofEntries (unlimitedCopies negative)).fingerprint hm hcredential
    (hother top (hc ▸ List.mem_append_right _ List.mem_cons_self))
  refine ⟨plan, ?_, SubGroup.sourceLocator_of_planWith hplan⟩
  rw [Member.locator_ofEntry, ← Report.recommended_eq hl hcopies hbest] at hplan
  exact (Report.plan_of_one_client hall hl).trans hplan

/-- One text and two recommendations. -/
theorem matching_text_replanned_otherwise :
    (∀ e ∈ unlimitedCopies true, e.Finite) ∧ (∀ e ∈ unlimitedCopies false, e.Finite) ∧
      Snapshot.canonicalText (unlimitedCopies true) =
        Snapshot.canonicalText (unlimitedCopies false) ∧
      ∃ p q, (Report.ofEntries (unlimitedCopies true)).plan "u@x.io" "vless" none =
          .ok (.ready p) ∧
        (Report.ofEntries (unlimitedCopies false)).plan "u@x.io" "vless" none = .ok (.ready q) ∧
        p.sourceLocator ≠ q.sourceLocator := by
  have hfinite : ∀ negative, ∀ e ∈ unlimitedCopies negative, e.Finite := by
    intro negative
    have hzero : ∀ sign, (Binary64.zero.withSign sign).isFinite := by decide +kernel
    have hnever : (Binary64.ofInt 0).isFinite := by decide +kernel
    rw [unlimitedCopies, List.forall_mem_cons, List.forall_mem_singleton]
    exact ⟨⟨hzero _, hzero _, hzero _, .null⟩, ⟨hnever, hzero false, hzero false, .null⟩⟩
  have hsame : List.Forall₂ Entry.Same (unlimitedCopies true) (unlimitedCopies false) := by
    refine .cons ?_ (.cons (Entry.Same.refl _) .nil)
    exact ⟨rfl, rfl, rfl, rfl, rfl, rfl, rfl, rfl, rfl, rfl, rfl, rfl, rfl, rfl, rfl⟩
  have hsecond : FirstGreatest Entry.score [(unlimitedCopies true)[0]]
      (unlimitedCopies true)[1] [] := ⟨by decide +kernel, by decide +kernel⟩
  have hfirst : FirstGreatest Entry.score [] (unlimitedCopies false)[0]
      [(unlimitedCopies false)[1]] := ⟨by decide +kernel, by decide +kernel⟩
  obtain ⟨p, hp, hpl⟩ := unlimitedCopies_plan true rfl hsecond
  obtain ⟨q, hq, hql⟩ := unlimitedCopies_plan false rfl hfirst
  refine ⟨hfinite true, hfinite false, Snapshot.canonicalText_of_same hsame, p, q, hp, hq, ?_⟩
  rw [hpl, hql]
  decide +kernel

end FleetDrift
