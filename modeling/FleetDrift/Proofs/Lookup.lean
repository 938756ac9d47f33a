import FleetDrift.Proofs.Identifiers
import FleetDrift.Proofs.ReportGroups
import FleetDrift.Proofs.SharedGroups
import Mathlib.Data.List.Find

/-! # Naming a group by what a report prints
Identities and protocols are stored as a lookup would write them, so a group answers to its own name
and a sub-group to its own protocol. One name can belong to two groups, as emails are free texts: a
group of the other kind that is listed earlier then takes the lookup. -/
namespace FleetDrift

open Text (trim lowercase Trimmed)

namespace Entry

theorem trimmed_identifier (e : Entry) : Trimmed e.identifier.toList := by
  unfold identifier
  cases hf : (e.family.identifierOrder.map e.nameText).find? (· ≠ "") with
  | none => exact Text.trimmed_nil
  | some name =>
    obtain ⟨field, -, rfl⟩ := List.mem_map.mp (List.mem_of_find?_eq_some hf)
    exact trimmed_nameText e field

theorem lowercase_normalizedProtocol (e : Entry) :
    lowercase e.normalizedProtocol = e.normalizedProtocol :=
  Text.lowercase_lowercase _

theorem trimmed_normalizedEmail (e : Entry) : Trimmed e.normalizedEmail.toList := by
  unfold normalizedEmail
  split
  · exact Text.trimmed_lowercase (Text.trimmed_trim _)
  · exact Text.trimmed_nil

theorem lowercase_normalizedEmail (e : Entry) :
    lowercase e.normalizedEmail = e.normalizedEmail := by
  unfold normalizedEmail
  split
  · exact Text.lowercase_lowercase _
  · rfl

/-- A name joined of protocol and identifier has no blank at its ends. -/
theorem trimmed_joined {e : Entry} (h : e.identifier ≠ "") :
    Trimmed (e.normalizedProtocol ++ ":" ++ e.identifier).toList := by
  have hne : e.identifier.toList ≠ [] := by simpa using h
  simpa using e.trimmed_normalizedProtocol.append (trimmed_identifier e) hne (c := ':') (by decide)

namespace HasIdentity

variable {e : Entry} {K : Identity}

theorem trim_value (h : e.HasIdentity K) : trim K.value = K.value := by
  cases h with
  | email => exact Text.trim_eq_self e.trimmed_normalizedEmail
  | identifier _ hi => exact Text.trim_eq_self (trimmed_joined hi)

theorem lowercase_value (h : e.HasIdentity K) (hk : K.kind = .email) :
    lowercase K.value = K.value := by
  cases h with
  | email => exact e.lowercase_normalizedEmail
  | identifier => cases hk

theorem colon_mem (h : e.HasIdentity K) (hk : K.kind = .identifier) :
    ':' ∈ K.value.toList := by
  cases h with
  | email => cases hk
  | identifier => simp

end HasIdentity

end Entry

namespace Identity

/-- A lookup for the name accepts the identity: emails in any letter case, identifiers exactly. -/
def AnswersTo : Identity → String → Prop
  | ⟨.email, value⟩, name => value = lowercase (trim name)
  | ⟨.identifier, value⟩, name => value = trim name

instance : (K : Identity) → (name : String) → Decidable (K.AnswersTo name)
  | ⟨.email, _⟩, _ => inferInstanceAs (Decidable (_ = _))
  | ⟨.identifier, _⟩, _ => inferInstanceAs (Decidable (_ = _))

/-- The first answers to the value of the second and is of the other kind. -/
inductive Shadows : Identity → Identity → Prop where
  | email (name : String) : Shadows ⟨.email, lowercase name⟩ ⟨.identifier, name⟩
  | identifier (name : String) : Shadows ⟨.identifier, name⟩ ⟨.email, name⟩

theorem shadows_iff {K L : Identity} : K.Shadows L ↔
    K.kind = .email ∧ L.kind = .identifier ∧ K.value = lowercase L.value ∨
      K.kind = .identifier ∧ L.kind = .email ∧ K.value = L.value := by
  constructor
  · rintro (name | name)
    · exact .inl ⟨rfl, rfl, rfl⟩
    · exact .inr ⟨rfl, rfl, rfl⟩
  · rcases K with ⟨_, _⟩
    rcases L with ⟨_, _⟩
    rintro (⟨rfl, rfl, rfl⟩ | ⟨rfl, rfl, rfl⟩)
    · exact .email _
    · exact .identifier _

instance (K L : Identity) : Decidable (K.Shadows L) := decidable_of_iff _ shadows_iff.symm

theorem Shadows.ne {K L : Identity} (h : K.Shadows L) : K ≠ L := by
  rintro rfl
  rcases shadows_iff.mp h with ⟨he, hi, -⟩ | ⟨hi, he, -⟩ <;> exact nomatch he.symm.trans hi

/-- To the value of an identity answers the identity itself, and what shadows it. -/
theorem answersTo_value_iff {e : Entry} {K L : Identity} (h : e.HasIdentity L) :
    K.AnswersTo L.value ↔ K = L ∨ K.Shadows L := by
  have ht := h.trim_value
  have hl := h.lowercase_value
  rw [shadows_iff]
  rcases K with ⟨_ | _, _⟩ <;> rcases L with ⟨_ | _, _⟩ <;> simp_all [AnswersTo]

end Identity

namespace Report

variable {entries : List Entry} {g : Group}

theorem group?_eq (r : Report) (name : String) :
    r.group? name = r.groups.find? fun g => g.identity.AnswersTo name := by
  simp only [group?]
  refine List.find?_congr fun g _ => ?_
  rcases g with ⟨⟨_ | _, _⟩, _, _, _⟩ <;> rfl

/-- A lookup by a printed name gives the first group above that shadows the one meant, or else the
one meant. -/
theorem group?_identity {before after : List Group}
    (hr : (ofEntries entries).groups = before ++ g :: after) :
    (ofEntries entries).group? g.identity.value =
      some ((before.find? fun h => h.identity.Shadows g.identity).getD g) := by
  obtain ⟨e, -, hK⟩ := exists_hasIdentity (hr ▸ List.mem_append_right before List.mem_cons_self)
  have hself : g.identity.AnswersTo g.identity.value :=
    (Identity.answersTo_value_iff hK).mpr (.inl rfl)
  have hbefore : before.find? (fun h => h.identity.AnswersTo g.identity.value) =
      before.find? fun h => h.identity.Shadows g.identity := by
    refine List.find?_congr fun h hm => ?_
    have hne : h.identity ≠ g.identity := by
      have hn := groups_identities_nodup entries
      rw [hr, List.map_append, List.map_cons] at hn
      exact (List.pairwise_append.mp hn).2.2 _ (List.mem_map_of_mem hm) _ List.mem_cons_self
    simp [Identity.answersTo_value_iff hK, hne]
  rw [group?_eq, hr, List.find?_append, hbefore, List.find?_cons_of_pos (by simpa using hself)]
  cases before.find? fun h => h.identity.Shadows g.identity <;> rfl

theorem subGroup?_protocol (hg : g ∈ (ofEntries entries).groups) {s : SubGroup}
    (hs : s ∈ g.subGroups) : g.subGroup? s.protocol = some s := by
  have hl : (g.identity, s) ∈ (ofEntries entries).listing := mem_listing.mpr ⟨g, hg, rfl, hs⟩
  obtain ⟨e, he⟩ := List.exists_mem_of_ne_nil _ (copies_ne_nil hl)
  rw [copies_eq hl, mem_copiesOf] at he
  have hw : lowercase (trim s.protocol) = s.protocol := by
    rw [← he.2.2, Text.trim_eq_self e.trimmed_normalizedProtocol, e.lowercase_normalizedProtocol]
  rw [Group.subGroup?, hw]
  obtain ⟨t, ht⟩ : ∃ t, g.subGroups.find? (fun t => t.protocol = s.protocol) = some t := by
    rw [← Option.isSome_iff_exists, List.find?_isSome]
    exact ⟨s, hs, by simp⟩
  have hp : t.protocol = s.protocol := by simpa using List.find?_some ht
  rw [ht, List.inj_on_of_nodup_map (subGroups_protocols_nodup hg)
    (List.mem_of_find?_eq_some ht) hs hp]

/-- Every name of an identifier has a colon, so emails without one shadow nothing. -/
theorem not_shadows_of_no_colon
    (hno : ∀ h ∈ (ofEntries entries).groups, h.identity.kind = .email →
      ':' ∉ h.identity.value.toList)
    {h : Group} (hh : h ∈ (ofEntries entries).groups) (hg : g ∈ (ofEntries entries).groups) :
    ¬ h.identity.Shadows g.identity := by
  have hcolon : ∀ f ∈ (ofEntries entries).groups, f.identity.kind = .identifier →
      ':' ∈ f.identity.value.toList := by
    intro f hf hk
    obtain ⟨e, -, hK⟩ := exists_hasIdentity hf
    exact hK.colon_mem hk
  intro hs
  rcases Identity.shadows_iff.mp hs with ⟨hk, gk, hv⟩ | ⟨hk, gk, hv⟩
  · refine hno h hh hk ?_
    rw [hv, lowercase, String.toList_ofList]
    refine Text.mem_lowerFrom (fun before after => ?_) (hcolon g hg gk)
    rw [Text.lowerAt_of_settled ⟨by decide, by decide, by decide⟩, List.mem_singleton]
  · exact hno g hg gk (hv ▸ hcolon h hh hk)

/-- Where the name that a report prints for a group leads, with the groups listed above it. -/
structure Resolves (r : Report) (above : List Group) (g : Group) : Prop where
  subGroups : ∀ s ∈ g.subGroups, g.subGroup? s.protocol = some s
  group : r.group? g.identity.value =
    some ((above.find? fun h => h.identity.Shadows g.identity).getD g)
  faithful : r.group? g.identity.value = some g ↔ ∀ h ∈ above, ¬ h.identity.Shadows g.identity
  planned : (∀ h ∈ above, ¬ h.identity.Shadows g.identity) → ∀ s ∈ g.subGroups,
    r.plan g.identity.value s.protocol none = s.recommendedPlan r.fingerprint ∧
      ∀ source, r.plan g.identity.value s.protocol (some source) = s.plan source r.fingerprint
  unambiguous : (∀ h ∈ r.groups, h.identity.kind = .email → ':' ∉ h.identity.value.toList) →
    ∀ h ∈ r.groups, ¬ h.identity.Shadows g.identity

theorem group?_faithful {before after : List Group}
    (hr : (ofEntries entries).groups = before ++ g :: after) :
    (ofEntries entries).group? g.identity.value = some g ↔
      ∀ h ∈ before, ¬ h.identity.Shadows g.identity := by
  rw [group?_identity hr, Option.some.injEq]
  constructor
  · intro he h hm hs
    obtain ⟨f, hf⟩ : ∃ f, before.find? (fun h => h.identity.Shadows g.identity) = some f := by
      rw [← Option.isSome_iff_exists, List.find?_isSome]
      exact ⟨h, hm, by simpa using hs⟩
    have hfs : f.identity.Shadows g.identity := by simpa using List.find?_some hf
    rw [hf, Option.getD_some] at he
    -- nothing shadows itself, as the kinds would differ
    rw [he] at hfs
    exact hfs.ne rfl
  · intro hno
    rw [List.find?_eq_none.mpr (by simpa using hno), Option.getD_none]

theorem plan_of_group? (r : Report) {name protocol : String} {s : SubGroup}
    (hg : r.group? name = some g) (hs : g.subGroup? protocol = some s) :
    r.plan name protocol none = s.recommendedPlan r.fingerprint ∧
      ∀ source, r.plan name protocol (some source) = s.plan source r.fingerprint := by
  constructor
  · simp only [plan, hg, hs]
  · intro source
    simp only [plan, hg, hs]

theorem mem_listing_of_lookup {name protocol : String} {s : SubGroup}
    (hg : (ofEntries entries).group? name = some g) (hs : g.subGroup? protocol = some s) :
    (g.identity, s) ∈ (ofEntries entries).listing :=
  mem_listing.mpr ⟨g, List.mem_of_find?_eq_some hg, rfl, List.mem_of_find?_eq_some hs⟩

theorem lookup_of_one_client {K : Identity} {s : SubGroup}
    (hall : ∀ e ∈ entries, e.HasIdentity K) (h : (K, s) ∈ (ofEntries entries).listing) :
    ∃ g, (ofEntries entries).group? K.value = some g ∧ g.subGroup? s.protocol = some s := by
  obtain ⟨g, hg, hK, hs⟩ := mem_listing.mp h
  obtain ⟨above, below, hr⟩ := List.append_of_mem hg
  refine ⟨g, ?_, subGroup?_protocol hg hs⟩
  rw [← hK]
  refine (group?_faithful hr).mpr fun other hother hshadow => ?_
  have hmem : other ∈ (ofEntries entries).groups := by
    rw [hr]
    exact List.mem_append_left _ hother
  obtain ⟨e, he, hid⟩ := exists_hasIdentity hmem
  exact hshadow.ne ((hid.unique (hall e he)).trans hK.symm)

/-- Naming a group as it is printed reaches it unless a group of the other kind above it answers to
the same name. -/
theorem printed_name_resolves (hg : g ∈ (ofEntries entries).groups) :
    ∃ above below, (ofEntries entries).groups = above ++ g :: below ∧
      (ofEntries entries).Resolves above g := by
  obtain ⟨above, below, hr⟩ := List.append_of_mem hg
  have hsub := fun s hs => subGroup?_protocol (s := s) hg hs
  refine ⟨above, below, hr, hsub, group?_identity hr, group?_faithful hr, ?_, ?_⟩
  · intro hno s hs
    exact plan_of_group? _ ((group?_faithful hr).mpr hno) (hsub s hs)
  · exact fun hno h hh => not_shadows_of_no_colon hno hh hg

theorem printed_name_resolves_drifting :
    ∃ g ∈ (ofEntries driftingCopies).groups, ∃ above below,
      (ofEntries driftingCopies).groups = above ++ g :: below ∧
        (ofEntries driftingCopies).Resolves above g := by
  obtain ⟨g, hg, -, -⟩ := mem_listing.mp driftingGroup_listed
  exact ⟨g, hg, printed_name_resolves hg⟩

/-- The email of one client is the name of another in lowercase. -/
def clashingCopies : List Entry :=
  [namelessCopy "vless" "U1", { namelessCopy "vless" "U1" with expiryTime := .ofInt 2000 },
   { vlessCopy "a" "u2" true 1000 with email := some "vless:u1" },
   { vlessCopy "b" "u3" true 1000 with email := some "vless:u1" }]

theorem clashingCopies_identities : (ofEntries clashingCopies).groups.map (·.identity) =
    [⟨.email, "vless:u1"⟩, ⟨.identifier, "vless:U1"⟩] := by
  have hunsorted : ((identityGroups id clashingCopies).filterMap Group.ofIdentityGroup?).map
      (fun g => (g.identity, g.severity)) =
        [(⟨.identifier, "vless:U1"⟩, .medium), (⟨.email, "vless:u1"⟩, .high)] := by
    decide +kernel
  obtain ⟨a, rest, hr, ha, hrest⟩ := List.map_eq_cons_iff.mp hunsorted
  obtain ⟨b, tail, hb', hb, htail⟩ := List.map_eq_cons_iff.mp hrest
  rw [hb', List.map_eq_nil_iff.mp htail] at hr
  obtain ⟨⟨ha, hsa⟩, hb, hsb⟩ := And.intro (Prod.mk.inj ha) (Prod.mk.inj hb)
  have hab : a.precedes b = false := by simp [Group.precedes, hsa, hsb, Severity.rank]
  rw [ofEntries, hr]
  simp [List.mergeSort, List.MergeSort.Internal.splitInTwo, hab, ha, hb]

/-- Its printed name leads to the other client. -/
theorem printed_name_misleads :
    ∃ g ∈ (ofEntries clashingCopies).groups, ∃ h ∈ (ofEntries clashingCopies).groups,
      (ofEntries clashingCopies).group? g.identity.value = some h ∧ h.identity ≠ g.identity := by
  obtain ⟨a, rest, hr, ha, hrest⟩ := List.map_eq_cons_iff.mp clashingCopies_identities
  obtain ⟨b, tail, hb', hb, htail⟩ := List.map_eq_cons_iff.mp hrest
  rw [List.map_eq_nil_iff.mp htail] at hb'
  rw [hb'] at hr
  have hshadow : a.identity.Shadows b.identity := by
    rw [ha, hb]
    decide +kernel
  have hfind : [a].find? (fun h => h.identity.Shadows b.identity) = some a := by
    simp [hshadow]
  refine ⟨b, by simp [hr], a, by simp [hr], ?_, hshadow.ne⟩
  have hfirst := group?_identity (show _ = [a] ++ b :: [] from hr)
  rw [hfirst, hfind, Option.getD_some]

end Report

end FleetDrift
