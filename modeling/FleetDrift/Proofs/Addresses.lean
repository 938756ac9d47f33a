import FleetDrift.Proofs.NumberText
import FleetDrift.Proofs.ReportContents

/-! # Reading a locator back
No part of a locator has a bar, and every percent sign in it begins an escape. A locator therefore
splits into its five parts and each part tells its component, whatever the components hold. What
groups entries are the last three components, so an address lies in one sub-group at most. -/
namespace FleetDrift

namespace Locator

/-- Undoes the two escapes from left to right; any other percent sign stays. -/
def unescapeChars : List Char → List Char
  | '%' :: '2' :: '5' :: rest => '%' :: unescapeChars rest
  | '%' :: '7' :: 'C' :: rest => '|' :: unescapeChars rest
  | c :: rest => c :: unescapeChars rest
  | [] => []

def unescape (part : String) : String := String.ofList (unescapeChars part.toList)

/-- What stands between the bars, still escaped. -/
def parts (locator : Locator) : List String := (locator.split '|').toList.map (·.copy)

theorem unescapeChars_cons {c : Char} (h : c ≠ '%') (rest : List Char) :
    unescapeChars (c :: rest) = c :: unescapeChars rest := by
  rw [unescapeChars]
  · intro more hc
    exact absurd hc h
  · intro more hc
    exact absurd hc h

theorem unescapeChars_escapeChar (c : Char) (rest : List Char) :
    unescapeChars (escapeChar c ++ rest) = c :: unescapeChars rest := by
  by_cases hp : c = '%'
  · subst hp
    simp [escapeChar, unescapeChars]
  · by_cases hb : c = '|'
    · subst hb
      simp [escapeChar, unescapeChars]
    · rw [escapeChar, if_neg hp, if_neg hb, List.singleton_append, unescapeChars_cons hp]

theorem unescapeChars_flatMap (cs : List Char) :
    unescapeChars (cs.flatMap escapeChar) = cs := by
  induction cs with
  | nil => rfl
  | cons c cs ih => rw [List.flatMap_cons, unescapeChars_escapeChar, ih]

@[simp] theorem unescape_escape (s : String) : unescape (escape s) = s := by
  rw [unescape, escape, String.toList_ofList, unescapeChars_flatMap, String.ofList_toList]

example : escape "a|%7C" = "a%7C%257C" ∧ unescape "a%7C%257C" = "a|%7C" := by decide +kernel

theorem bar_not_mem_escapeChar (c : Char) : '|' ∉ escapeChar c := by
  by_cases hp : c = '%'
  · simp [escapeChar, hp]
  · by_cases hb : c = '|'
    · simp [escapeChar, hb]
    · simpa [escapeChar, hp, hb] using Ne.symm hb

theorem bar_not_mem_escape (s : String) : '|' ∉ (escape s).toList := by
  rw [escape, String.toList_ofList, List.mem_flatMap]
  rintro ⟨c, -, hc⟩
  exact bar_not_mem_escapeChar c hc

/-- Joining by bars can be undone for any number of components but none at all. -/
theorem parts_ofParts {components : List String} (h : components ≠ []) :
    parts (ofParts components) = components.map escape := by
  have hbar : ∀ s ∈ components.map escape, '|' ∉ s.toList := by
    intro s hs
    obtain ⟨component, -, rfl⟩ := List.mem_map.mp hs
    exact bar_not_mem_escape component
  have hsplit := String.toList_split_intercalate hbar
  rw [if_neg (by simpa using h)] at hsplit
  exact hsplit

end Locator

namespace Entry

/-- The two entries are told apart by no component of their locators. -/
structure SameAddress (a b : Entry) : Prop where
  server : a.serverId = b.serverId
  inbound : a.inboundId = b.inboundId
  protocol : a.normalizedProtocol = b.normalizedProtocol
  identifier : a.identifier = b.identifier
  email : a.normalizedEmail = b.normalizedEmail

variable {a b : Entry} {K : Identity}

theorem address_eq_iff : a.address = b.address ↔ a.SameAddress b := by
  constructor
  · intro h
    simp only [address, List.cons.injEq, and_true] at h
    obtain ⟨hserver, hinbound, hprotocol, hidentifier, hemail⟩ := h
    have hdigits := Number.intDigits_injective (String.ofList_injective hinbound)
    exact ⟨hserver, Int64.toInt_inj.mp hdigits, hprotocol, hidentifier, hemail⟩
  · rintro ⟨hserver, hinbound, hprotocol, hidentifier, hemail⟩
    rw [address, address, hserver, hinbound, hprotocol, hidentifier, hemail]

theorem parts_locator (e : Entry) : e.locator.parts = e.address.map Locator.escape :=
  Locator.parts_ofParts (List.cons_ne_nil _ _)

theorem unescape_parts_locator (e : Entry) :
    e.locator.parts.map Locator.unescape = e.address := by
  rw [parts_locator, List.map_map]
  simp [Function.comp_def]

theorem locator_eq_iff : a.locator = b.locator ↔ a.SameAddress b := by
  rw [← address_eq_iff]
  constructor
  · intro h
    rw [← unescape_parts_locator a, h, unescape_parts_locator]
  · intro h
    rw [locator, h, locator]

/-- Locators are equal exactly for entries of one address, and the five components can be read off
the locator. -/
theorem locator_is_faithful_address (a b : Entry) :
    (a.locator = b.locator ↔ a.SameAddress b) ∧ a.locator.parts.length = 5 ∧
      a.locator.parts.map Locator.unescape =
        [a.serverId, Number.intText a.inboundId.toInt, a.normalizedProtocol, a.identifier,
          a.normalizedEmail] := by
  refine ⟨locator_eq_iff, ?_, unescape_parts_locator a⟩
  rw [parts_locator, List.length_map]
  rfl

namespace SameAddress

theorem hasIdentity_iff (h : a.SameAddress b) : a.HasIdentity K ↔ b.HasIdentity K := by
  have hid : a.identity? = b.identity? := by
    rw [identity?, identity?, h.email, h.protocol, h.identifier]
  rw [← identity?_eq_some_iff, hid, identity?_eq_some_iff]

theorem mem_copiesOf_iff (h : a.SameAddress b) {entries : List Entry} (ha : a ∈ entries)
    (hb : b ∈ entries) {p : String} : a ∈ copiesOf entries K p ↔ b ∈ copiesOf entries K p := by
  rw [mem_copiesOf, mem_copiesOf, h.hasIdentity_iff, h.protocol]
  simp only [ha, hb, true_and]

end SameAddress

end Entry

theorem Report.mem_copies_of_locator {entries : List Entry} {K : Identity} {s : SubGroup}
    (h : (K, s) ∈ (ofEntries entries).listing) {m : Member} (hm : m ∈ s.members) {e : Entry}
    (he : e ∈ entries) (hl : e.locator = m.locator) : e ∈ s.copies := by
  obtain ⟨hcopy, hloc⟩ := (mem_members_iff h).mp hm
  have hsame : e.SameAddress m.entry := Entry.locator_eq_iff.mp (hl.trans hloc)
  rw [copies_eq h]
  exact (hsame.mem_copiesOf_iff he (mem_copiesOf.mp hcopy).1).mpr hcopy

end FleetDrift
