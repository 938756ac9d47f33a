import FleetDrift.Proofs.Addresses
import FleetDrift.Proofs.Lookup

/-! # A source that is asked for
Planning looks the locator up among the members of the sub-group and nowhere else. As a locator is
the address of its entry, the members with an entry's locator are copies of the same client under
the same protocol, so the locator of any other entry of the scan is turned down. -/
namespace FleetDrift

inductive SubGroup.Honours (s : SubGroup) (source : Entry) :
    Except PlanError PlanOutcome → Prop where
  | ready (plan : Plan) (choice : plan.sourceChoice = .explicit)
      (named : plan.sourceLocator = source.locator) (made : plan.source = source) :
      s.Honours source (.ok (.ready plan))
  | missing (blank : hasCredential (.ofProtocol s.protocol) source = false) :
      s.Honours source (.ok (.missingCredential source.locator))
  | converged (all : ∀ e ∈ s.copies, e.locator = source.locator) :
      s.Honours source (.ok .alreadyConverged)

variable {entries : List Entry} {K : Identity} {s : SubGroup} {e : Entry}

theorem Report.exists_member_iff (h : (K, s) ∈ (ofEntries entries).listing) (he : e ∈ entries) :
    (∃ m ∈ s.members, m.locator = e.locator) ↔ e ∈ s.copies := by
  constructor
  · rintro ⟨m, hm, hl⟩
    exact mem_copies_of_locator h hm he hl.symm
  · intro hc
    exact ⟨.ofEntry e, ofEntry_mem_members h hc, Member.locator_ofEntry e⟩

theorem Report.member?_eq_none (h : (K, s) ∈ (ofEntries entries).listing) (he : e ∈ entries)
    (hc : e ∉ s.copies) : s.member? e.locator = none := by
  cases hm : s.member? e.locator with
  | none => rfl
  | some m => exact absurd ((exists_member_iff h he).mp ⟨m, SubGroup.member?_spec hm⟩) hc

theorem SubGroup.honours_plan (h : (K, s) ∈ (Report.ofEntries entries).listing)
    {locator : Locator} {m : Member} (hm : s.member? locator = some m) (basedOn : Fingerprint) :
    s.Honours m.entry (s.plan locator basedOn) := by
  obtain ⟨-, hl⟩ := (Report.mem_members_iff h).mp (member?_spec hm).1
  have hplan : s.plan locator basedOn = .ok (s.planFrom m .explicit basedOn) :=
    planWith_eq_ok_iff.mpr ⟨m, hm, rfl⟩
  rw [hplan, planFrom_eq]
  split
  · split
    · next hnil =>
      refine .converged fun c hc => ?_
      have hall := targetsBeside_eq_nil_iff.mp hnil _ (Report.ofEntry_mem_members h hc)
      rw [Member.locator_ofEntry] at hall
      exact hall.trans hl
    · exact .ready _ readyPlan_sourceChoice (readyPlan_sourceLocator.trans hl) readyPlan_source
  · next hblank =>
    rw [hl]
    exact .missing (Bool.eq_false_iff.mpr hblank)

/-- Of the entries of a scan, those of the planned sub-group are taken as its source and no others
are. -/
theorem explicit_source_honoured_or_rejected {identity protocol : String} {g : Group}
    (hg : (Report.ofEntries entries).group? identity = some g)
    (hs : g.subGroup? protocol = some s) (he : e ∈ entries) :
    (e ∈ s.copies ↔ e.HasIdentity g.identity ∧ e.normalizedProtocol = s.protocol) ∧
    (e ∈ s.copies → ∃ source ∈ s.copies, source.locator = e.locator ∧
      s.Honours source ((Report.ofEntries entries).plan identity protocol (some e.locator))) ∧
    (e ∉ s.copies → (Report.ofEntries entries).plan identity protocol (some e.locator) =
      .error (.unknownSource e.locator s.protocol)) := by
  have h := Report.mem_listing_of_lookup hg hs
  have hplan := (Report.plan_of_group? _ hg hs).2 e.locator
  refine ⟨?_, fun hc => ?_, fun hc => ?_⟩
  · rw [Report.copies_eq h, mem_copiesOf]
    exact and_iff_right he
  · obtain ⟨asked, hasked, hl⟩ := (Report.exists_member_iff h he).mpr hc
    obtain ⟨m, hm⟩ := SubGroup.exists_member? hasked
    rw [hl] at hm
    obtain ⟨hmem, hloc⟩ := SubGroup.member?_spec hm
    obtain ⟨-, hown⟩ := (Report.mem_members_iff h).mp hmem
    refine ⟨m.entry, List.mem_map_of_mem hmem, hown.symm.trans hloc, ?_⟩
    rw [hplan]
    exact SubGroup.honours_plan h hm _
  · rw [hplan]
    exact SubGroup.planWith_of_member?_eq_none (Report.member?_eq_none h he hc)

/-- The drifting copies and one of the same client under another protocol. -/
def neighbouringCopies : List Entry :=
  { vlessCopy "a" "u1" true 1000 with protocol := "trojan" } :: driftingCopies

theorem explicit_source_neighbouring :
    ∃ g s, (Report.ofEntries neighbouringCopies).group? "u@x.io" = some g ∧
      g.subGroup? "vless" = some s ∧
      (∃ e ∈ neighbouringCopies, ∃ source ∈ s.copies, source.locator = e.locator ∧ s.Honours source
        ((Report.ofEntries neighbouringCopies).plan "u@x.io" "vless" (some e.locator))) ∧
      ∃ e ∈ neighbouringCopies,
        (Report.ofEntries neighbouringCopies).plan "u@x.io" "vless" (some e.locator) =
          .error (.unknownSource e.locator s.protocol) := by
  have hall : ∀ e ∈ neighbouringCopies, e.HasIdentity ⟨.email, "u@x.io"⟩ := by decide +kernel
  have h := Report.listing_of_disagree (K := ⟨.email, "u@x.io"⟩) (p := "vless")
    neighbouringCopies (by decide +kernel)
  obtain ⟨g, hg, hs⟩ := Report.lookup_of_one_client hall h
  rw [SubGroup.protocol_ofDisagreeing] at hs
  have hown : vlessCopy "a" "u1" true 1000 ∈ neighbouringCopies :=
    List.mem_cons_of_mem _ List.mem_cons_self
  have hother : { vlessCopy "a" "u1" true 1000 with protocol := "trojan" } ∈ neighbouringCopies :=
    List.mem_cons_self
  obtain ⟨-, hhonoured, -⟩ := explicit_source_honoured_or_rejected hg hs hown
  obtain ⟨-, -, hrejected⟩ := explicit_source_honoured_or_rejected hg hs hother
  refine ⟨g, _, hg, hs, ⟨_, hown, hhonoured ?_⟩, _, hother, hrejected ?_⟩
  · rw [SubGroup.copies_ofDisagreeing, mem_copiesOf]
    exact ⟨hown, hall _ hown, by decide +kernel⟩
  · rw [SubGroup.copies_ofDisagreeing, mem_copiesOf]
    exact fun hc => absurd hc.2.2 (by decide +kernel)

end FleetDrift
