import FleetDrift.Proofs.Addresses
import FleetDrift.Proofs.MemberFamilies
import FleetDrift.Proofs.PlanApplication
import FleetDrift.Proofs.ReportGroups
import FleetDrift.Proofs.WrittenCredentials

/-! # What a plan leaves alone
A plan writes into the fields that name an entry without an email, and the entry must not take the
name of another client. It takes the name that the family of the sub-group gives to the source. That
is the name of the client, unless the Kelvin sign puts the source itself into another family. -/
namespace FleetDrift

variable {e source : Entry} {family : CredentialFamily} {field : Field} {values : ClientValues}

namespace Entry

@[simp] theorem normalizedProtocol_overwrite :
    (e.overwrite family values).normalizedProtocol = e.normalizedProtocol := rfl

@[simp] theorem family_overwrite : (e.overwrite family values).family = e.family := rfl

theorem nameText_overwrite (hc : field ∈ family.credentialFields) (e source : Entry) :
    (e.overwrite family (.ofSource family source)).nameText field = source.nameText field := by
  cases field with
  | id => simp only [nameText, overwrite, if_pos hc, ClientValues.id_ofSource hc, Text.trim_trim]
  | password =>
    simp only [nameText, overwrite, if_pos hc, ClientValues.password_ofSource hc, Text.trim_trim]
  | expiryTime | totalGB | enable | limitIp | flow | subId | email =>
    cases CredentialFamily.isCredential_of_mem hc

theorem nameText_password_overwrite (e source : Entry) :
    (e.overwrite .password (.ofSource .password source)).nameText .password =
      source.nameText .password :=
  nameText_overwrite (by decide) e source

theorem nameText_overwrite_kept (hc : field.isCredential = true)
    (hf : field ∉ family.credentialFields) :
    (e.overwrite family values).nameText field = e.nameText field := by
  cases field with
  | id | password => simp only [nameText, overwrite, if_neg hf]
  | expiryTime | totalGB | enable | limitIp | flow | subId | email => cases hc

theorem nameText_overwrite_email (e source : Entry) :
    (e.overwrite family (.ofSource family source)).nameText .email = source.nameText .email := by
  simp only [nameText, overwrite, ClientValues.ofSource, Option.getD_some, Text.trim_trim]

theorem normalizedEmail_overwrite (e source : Entry) :
    (e.overwrite family (.ofSource family source)).normalizedEmail = source.normalizedEmail := by
  rw [← lowercase_nameText_email, nameText_overwrite_email, lowercase_nameText_email]

theorem nameIn_overwrite (h : SubGroup.hasCredential family source = true) (e : Entry) :
    (e.overwrite family (.ofSource family source)).nameIn family = source.nameIn family := by
  -- a known family looks first at its one credential, an unknown one at nothing that is kept
  cases family with
  | uuid =>
    have hid : (e.overwrite .uuid (.ofSource .uuid source)).nameText .id = source.nameText .id :=
      nameText_overwrite (by decide) e source
    have hne := SubGroup.nameText_ne_empty_of_known (c := .id) (by decide) h (by decide)
    rw [nameIn_of_first rfl hne, nameIn_of_first rfl (by rwa [hid]), hid]
  | password =>
    have hpassword := nameText_password_overwrite e source
    have hne := SubGroup.nameText_ne_empty_of_known (c := .password) (by decide) h (by decide)
    rw [nameIn_of_first rfl hne, nameIn_of_first rfl (by rwa [hpassword]), hpassword]
  | unknown =>
    apply nameIn_congr
    intro field hf
    rcases CredentialFamily.mem_identifierOrder.mp hf with rfl | rfl | rfl
    · exact nameText_overwrite (by decide) e source
    · exact nameText_overwrite (by decide) e source
    · exact nameText_overwrite_email e source

/-- An entry that the sign puts into another family keeps its `id` and is named by it first. -/
theorem KelvinSpelled.identifier_overwrite (hk : e.KelvinSpelled)
    (h : SubGroup.hasCredential .password source = true) :
    (e.overwrite .password (.ofSource .password source)).identifier =
      if e.nameText .id = "" then source.nameIn .password else e.identifier := by
  have hid : (e.overwrite .password (.ofSource .password source)).nameText .id = e.nameText .id :=
    nameText_overwrite_kept rfl (by decide)
  have hpassword := nameText_password_overwrite e source
  rw [identifier_eq_nameIn, identifier_eq_nameIn, family_overwrite, hk.family_eq]
  split
  · next hblank =>
    have hne := SubGroup.nameText_ne_empty_of_known (c := .password) (by decide) h (by decide)
    have hsource : source.nameIn .password = source.nameText .password := nameIn_of_first rfl hne
    rw [← hid] at hblank
    rw [hsource, ← hpassword]
    rw [← hpassword] at hne
    exact nameIn_of_second rfl hblank hne
  · next hne =>
    have hname : e.nameIn .unknown = e.nameText .id := nameIn_of_first rfl hne
    rw [hname, ← hid]
    rw [← hid] at hne
    exact nameIn_of_first rfl hne

/-- Any other entry is named as the family of the sub-group names the source. -/
theorem identifier_overwrite (hf : family = .ofProtocol e.normalizedProtocol)
    (h : SubGroup.hasCredential family source = true) :
    (e.overwrite family (.ofSource family source)).identifier =
      if e.KelvinSpelled ∧ e.nameText .id ≠ "" then e.identifier else source.nameIn family := by
  by_cases hk : e.KelvinSpelled
  · rw [hk.ofProtocol_eq] at hf
    subst hf
    rw [hk.identifier_overwrite h]
    by_cases hblank : e.nameText .id = "" <;> simp [hk, hblank]
  · rw [if_neg (fun hc => hk hc.1), identifier_eq_nameIn, family_overwrite,
      family_of_not_kelvinSpelled hk, ← hf, nameIn_overwrite h]

variable {K : Identity}

theorem identity?_overwrite_iff (he : e.HasIdentity K) (hs : source.HasIdentity K)
    (hp : e.normalizedProtocol = source.normalizedProtocol)
    (hf : family = .ofProtocol e.normalizedProtocol)
    (h : SubGroup.hasCredential family source = true) :
    (e.overwrite family (.ofSource family source)).identity? = e.identity? ↔
      K.kind = .email ∨ source.nameIn family = source.identifier ∨
        (e.KelvinSpelled ∧ e.nameText .id ≠ "") := by
  have hm : source.normalizedEmail = e.normalizedEmail :=
    hs.normalizedEmail_eq.trans he.normalizedEmail_eq.symm
  have hsame := identity?_eq_some_iff.mpr he
  rw [← identity?_eq_some_iff.mpr hs, identity?_eq_iff hp hm.symm] at hsame
  rw [identity?_eq_iff normalizedProtocol_overwrite ((normalizedEmail_overwrite e source).trans hm),
    identifier_overwrite hf h, ← he.kind_eq_email_iff]
  by_cases hk : K.kind = .email
  · simp only [hk, true_or]
  · have hid : e.identifier = source.identifier :=
      hsame.resolve_left fun hne => hk (hs.kind_eq_email_iff.mpr hne)
    simp only [hk, false_or]
    split
    · next hc => simp [hc]
    · next hc => simp [hc, hid]

end Entry

/-- What changes within one class and stays there leaves no trace in the others. -/
theorem copiesOf_map {entries : List Entry} {K L : Identity} {p q : String} {f : Entry → Entry}
    (hkept : ∀ e ∈ entries,
      (f e).identity? = e.identity? ∧ (f e).normalizedProtocol = e.normalizedProtocol)
    (hwithin : ∀ e ∈ entries, f e ≠ e → e.HasIdentity K ∧ e.normalizedProtocol = p)
    (hne : (L, q) ≠ (K, p)) : copiesOf (entries.map f) L q = copiesOf entries L q := by
  have hclass : ∀ e ∈ entries, ((f e).HasIdentity L ∧ (f e).normalizedProtocol = q) ↔
      e.HasIdentity L ∧ e.normalizedProtocol = q := by
    intro e he
    rw [← Entry.identity?_eq_some_iff, ← Entry.identity?_eq_some_iff, (hkept e he).1,
      (hkept e he).2]
  have hfilter : (entries.map f).filter (fun e => e.HasIdentity L ∧ e.normalizedProtocol = q) =
      (copiesOf entries L q).map f := by
    rw [List.filter_map, copiesOf]
    exact congrArg (List.map f) (List.filter_congr fun e he => decide_eq_decide.mpr (hclass e he))
  have hfixed : (copiesOf entries L q).map f = (copiesOf entries L q).map id := by
    refine List.map_congr_left fun e he => ?_
    obtain ⟨hmem, hL, hq⟩ := mem_copiesOf.mp he
    by_contra hchanged
    -- what changed is of the class of `K` and `p`, and an entry is of one class only
    obtain ⟨hK, hp⟩ := hwithin e hmem hchanged
    exact hne (Prod.ext (hL.unique hK) (hq.symm.trans hp))
  rw [copiesOf, hfilter, hfixed, List.map_id]

namespace Plan

def Targets (plan : Plan) (e : Entry) : Prop := e.locator ∈ plan.targets.map (·.locator)

/-- The plan keeps its targets with their client, and all other sub-groups as they are. -/
structure Undisturbing (plan : Plan) (K : Identity) (s : SubGroup) (entries : List Entry) :
    Prop where
  named : ∀ e ∈ entries, plan.Targets e →
    (e.overwrite s.family plan.client).identity? = e.identity?
  apart : ∀ L t, (L, t.protocol) ≠ (K, s.protocol) →
    ((L, t) ∈ (Report.ofEntries entries).listing ↔
      (L, t) ∈ (Report.ofEntries (plan.apply s.family entries)).listing)

end Plan

variable {entries : List Entry} {K : Identity} {s : SubGroup} {m : Member}
  {choice : SourceChoice} {basedOn : Fingerprint}

theorem mem_copies_of_targets (h : (K, s) ∈ (Report.ofEntries entries).listing)
    (he : e ∈ entries) (ht : (s.readyPlan m choice basedOn).Targets e) :
    e ∈ copiesOf entries K s.protocol := by
  rw [Plan.Targets, SubGroup.readyPlan_targets] at ht
  obtain ⟨-, o, ho, hl⟩ := SubGroup.mem_targetsBeside_locators.mp ht
  -- no entry beside the copies has a copy's locator, so the target is one of them
  rw [← Report.copies_eq h]
  exact Report.mem_copies_of_locator h ho he hl.symm

theorem readyPlan_apart (h : (K, s) ∈ (Report.ofEntries entries).listing)
    (hnamed : ∀ e ∈ entries, (s.readyPlan m choice basedOn).Targets e →
      (e.overwrite s.family (s.readyPlan m choice basedOn).client).identity? = e.identity?)
    {L : Identity} {t : SubGroup} (hne : (L, t.protocol) ≠ (K, s.protocol)) :
    (L, t) ∈ (Report.ofEntries entries).listing ↔
      (L, t) ∈ (Report.ofEntries
        ((s.readyPlan m choice basedOn).apply s.family entries)).listing := by
  rw [Report.mem_listing_iff, Report.mem_listing_iff, Plan.apply, copiesOf_map _ _ hne]
  · intro e he
    split
    · next ht => exact ⟨hnamed e he ht, Entry.normalizedProtocol_overwrite⟩
    · exact ⟨rfl, rfl⟩
  · intro e he hchanged
    split at hchanged
    · next ht => exact (mem_copiesOf.mp (mem_copies_of_targets h he ht)).2
    · exact absurd rfl hchanged

theorem identity?_target_iff (h : (K, s) ∈ (Report.ofEntries entries).listing) (hm : m ∈ s.members)
    (hc : SubGroup.hasCredential s.family m.entry = true) (he : e ∈ entries)
    (ht : (s.readyPlan m choice basedOn).Targets e) :
    (e.overwrite s.family (s.readyPlan m choice basedOn).client).identity? = e.identity? ↔
      K.kind = .email ∨ m.entry.nameIn s.family = m.entry.identifier ∨
        (e.KelvinSpelled ∧ e.nameText .id ≠ "") := by
  obtain ⟨-, heK, hep⟩ := mem_copiesOf.mp (mem_copies_of_targets h he ht)
  obtain ⟨hK, hp⟩ := Report.hasIdentity_of_mem h hm
  have hfamily : s.family = .ofProtocol e.normalizedProtocol := by rw [hep, Report.family_eq h]
  rw [SubGroup.readyPlan_client, ← Report.family_eq h]
  exact Entry.identity?_overwrite_iff heK hK (hep.trans hp.symm) hfamily hc

theorem undisturbing_readyPlan_iff (h : (K, s) ∈ (Report.ofEntries entries).listing)
    (hm : m ∈ s.members) (hc : SubGroup.hasCredential s.family m.entry = true) :
    (s.readyPlan m choice basedOn).Undisturbing K s entries ↔
      K.kind = .email ∨ m.entry.nameIn s.family = m.entry.identifier ∨
        ∀ e ∈ entries, (s.readyPlan m choice basedOn).Targets e →
          e.KelvinSpelled ∧ e.nameText .id ≠ "" := by
  constructor
  · intro hu
    by_cases hk : K.kind = .email
    · exact .inl hk
    · by_cases hname : m.entry.nameIn s.family = m.entry.identifier
      · exact .inr (.inl hname)
      · refine .inr (.inr fun e he ht => ?_)
        have hkept := (identity?_target_iff h hm hc he ht).mp (hu.named e he ht)
        exact (hkept.resolve_left hk).resolve_left hname
  · intro hcond
    have hnamed : ∀ e ∈ entries, (s.readyPlan m choice basedOn).Targets e →
        (e.overwrite s.family (s.readyPlan m choice basedOn).client).identity? = e.identity? := by
      intro e he ht
      apply (identity?_target_iff h hm hc he ht).mpr
      exact hcond.imp_right (Or.imp_right fun hall => hall e he ht)
    exact ⟨hnamed, fun L t hne => readyPlan_apart h hnamed hne⟩

/-- Where locators are distinct, a copy is the one that its locator finds. -/
theorem Report.yields_readyPlan (distinct : (entries.map Entry.locator).Nodup)
    (h : (K, s) ∈ (Report.ofEntries entries).listing) (hm : m ∈ s.members)
    (hc : SubGroup.hasCredential s.family m.entry = true)
    (ho : ∃ other ∈ s.members, other.locator ≠ m.locator) (basedOn : Fingerprint) :
    s.Yields basedOn (s.readyPlan m .explicit basedOn) := by
  obtain ⟨first, hf⟩ := SubGroup.exists_member? hm
  obtain ⟨hmem, hl⟩ := SubGroup.member?_spec hf
  obtain ⟨hcopy, hloc⟩ := (Report.mem_members_iff h).mp hm
  obtain ⟨hcopy', hloc'⟩ := (Report.mem_members_iff h).mp hmem
  have hentry : first.entry = m.entry := by
    apply List.inj_on_of_nodup_map distinct (mem_copiesOf.mp hcopy').1 (mem_copiesOf.mp hcopy).1
    rw [← hloc', hl, hloc]
  have hsame : first = m := by
    cases first
    cases m
    simp_all
  rw [hsame] at hf
  rw [Report.family_eq h] at hc
  exact .inr ⟨m.locator, SubGroup.planWith_eq_ok_iff.mpr
    ⟨m, hf, SubGroup.planFrom_ready .explicit basedOn hc ho⟩⟩

/-- Carrying out a plan disturbs no other sub-group and renames no target, unless the source goes
by a name that the family of the sub-group does not give it. -/
theorem applied_plan_undisturbing {g : Group} (hg : g ∈ (Report.ofEntries entries).groups)
    (hs : s ∈ g.subGroups) {plan : Plan}
    (ready : s.Yields (Report.ofEntries entries).fingerprint plan) :
    (plan.Undisturbing g.identity s entries ↔
      g.identity.kind = .email ∨ plan.source.nameIn s.family = plan.source.identifier ∨
        ∀ e ∈ entries, plan.Targets e → e.KelvinSpelled ∧ e.nameText .id ≠ "") ∧
    (¬ plan.source.KelvinSpelled → plan.Undisturbing g.identity s entries) := by
  have h := Report.mem_listing.mpr ⟨g, hg, rfl, hs⟩
  obtain ⟨locator, choice, hp⟩ := ready.exists_planWith
  obtain ⟨m, hfound, hc, -, rfl⟩ := SubGroup.planWith_ready hp
  have hm := (SubGroup.member?_spec hfound).1
  rw [← Report.family_eq h] at hc
  refine ⟨undisturbing_readyPlan_iff h hm hc, fun hk => ?_⟩
  rw [undisturbing_readyPlan_iff h hm hc, Entry.identifier_eq_nameIn,
    (Report.family_member_iff h hm).mpr hk]
  exact .inr (.inl rfl)

/-- A copy without an email under some spelling of `shadowsocks`. -/
def shadowsocksCopy (server protocol id password : String) (expiry : Int) : Entry :=
  { vlessCopy server id true expiry with protocol := protocol, email := none, password := password }

def cappedCopies : List Entry :=
  [shadowsocksCopy "a" "shadowsocks" "" "x" 0, shadowsocksCopy "b" "Shadowsocks" "" "x" 1000]

def cappedGroup : SubGroup := .ofDisagreeing "shadowsocks" .identifier cappedCopies

theorem applied_plan_undisturbing_capped :
    ∃ g ∈ (Report.ofEntries cappedCopies).groups, ∃ s ∈ g.subGroups, ∃ plan,
      s.Yields (Report.ofEntries cappedCopies).fingerprint plan ∧
      plan.Undisturbing g.identity s cappedCopies := by
  have listed : (⟨.identifier, "shadowsocks:x"⟩, cappedGroup) ∈
      (Report.ofEntries cappedCopies).listing :=
    Report.listing_of_one_client cappedCopies (by decide +kernel) (by decide +kernel)
  obtain ⟨g, hg, -, hs⟩ := Report.mem_listing.mp listed
  have hm : Member.ofEntry cappedCopies[1] ∈ cappedGroup.members :=
    List.mem_cons_of_mem _ List.mem_cons_self
  have ready := Report.yields_readyPlan (by decide +kernel) listed hm (by decide +kernel)
    (by decide +kernel) (Report.ofEntries cappedCopies).fingerprint
  have plain : ¬ (Member.ofEntry cappedCopies[1]).entry.KelvinSpelled := by decide +kernel
  exact ⟨g, hg, cappedGroup, hs, _, ready, (applied_plan_undisturbing hg hs ready).2 plain⟩

/-- The second copy has the Kelvin sign in its tag and is named by its `id`, not its password; the
third has that password. -/
def respelledCopies : List Entry :=
  [shadowsocksCopy "a" "shadowsocks" "" "x" 0, shadowsocksCopy "b" "shadowsoc\u212as" "x" "q" 0,
   shadowsocksCopy "c" "shadowsocks" "" "q" 1000]

def respelledGroup : SubGroup := .ofDisagreeing "shadowsocks" .identifier
  (copiesOf respelledCopies ⟨.identifier, "shadowsocks:x"⟩ "shadowsocks")

/-- Planned from the second copy, the first one becomes a copy of the third one's client. -/
theorem applied_plan_renames_target :
    (respelledCopies.map Entry.locator).Nodup ∧
    ∃ g ∈ (Report.ofEntries respelledCopies).groups, ∃ s ∈ g.subGroups, ∃ plan,
      s.Yields (Report.ofEntries respelledCopies).fingerprint plan ∧
      (∃ e ∈ respelledCopies, plan.Targets e ∧
        (e.overwrite s.family plan.client).identity? ≠ e.identity?) ∧
      ∃ K p, (K, p) ≠ (g.identity, s.protocol) ∧
        (K, p) ∉ (Report.ofEntries respelledCopies).headings ∧
        (K, p) ∈ (Report.ofEntries (plan.apply s.family respelledCopies)).headings := by
  have distinct : (respelledCopies.map Entry.locator).Nodup := by decide +kernel
  have listed : (⟨.identifier, "shadowsocks:x"⟩, respelledGroup) ∈
      (Report.ofEntries respelledCopies).listing :=
    Report.listing_of_disagree respelledCopies (by decide +kernel)
  obtain ⟨g, hg, hid, hs⟩ := Report.mem_listing.mp listed
  have hcopy : respelledCopies[1] ∈
      copiesOf respelledCopies ⟨.identifier, "shadowsocks:x"⟩ "shadowsocks" :=
    mem_copiesOf.mpr ⟨List.mem_cons_of_mem _ List.mem_cons_self, by decide +kernel⟩
  have hm : Member.ofEntry respelledCopies[1] ∈ respelledGroup.members :=
    (Report.mem_members_iff listed).mpr ⟨hcopy, rfl⟩
  have ready := Report.yields_readyPlan distinct listed hm (by decide +kernel)
    (by decide +kernel) (Report.ofEntries respelledCopies).fingerprint
  refine ⟨distinct, g, hg, respelledGroup, hs, _, ready,
    ⟨respelledCopies[0], List.mem_cons_self, ?_, ?_⟩,
    ⟨.identifier, "shadowsocks:q"⟩, "shadowsocks", ?_, ?_, ?_⟩
  · rw [Plan.Targets, SubGroup.readyPlan_targets]
    decide +kernel
  · rw [SubGroup.readyPlan_client]
    decide +kernel
  · rw [hid]
    decide
  · rw [Report.mem_headings_iff]
    decide +kernel
  · rw [Report.mem_headings_iff, Plan.apply, SubGroup.readyPlan_targets,
      SubGroup.readyPlan_client]
    decide +kernel

end FleetDrift
