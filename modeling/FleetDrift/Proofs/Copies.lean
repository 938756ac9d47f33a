import FleetDrift.Proofs.Classes

/-! # Copies of one client
Which identity an entry has is given by rule, and the copies of a client under one protocol are one
filter of the entries. The groups of a scan are exactly these filters. -/
namespace FleetDrift

/-- An email identifies before all else; without one, protocol and identifier do together. -/
inductive Entry.HasIdentity (e : Entry) : Identity → Prop where
  | email (h : e.normalizedEmail ≠ "") : e.HasIdentity ⟨.email, e.normalizedEmail⟩
  | identifier (h : e.normalizedEmail = "") (hi : e.identifier ≠ "") :
      e.HasIdentity ⟨.identifier, e.normalizedProtocol ++ ":" ++ e.identifier⟩

theorem Entry.identity?_eq_some_iff {e : Entry} {K : Identity} :
    e.identity? = some K ↔ e.HasIdentity K := by
  unfold Entry.identity?
  constructor
  · intro h
    split at h
    · next hm => cases h; exact .email hm
    · next hm =>
      split at h
      · next hi => cases h; exact .identifier (not_not.mp hm) hi
      · cases h
  · intro h
    cases h with
    | email h => simp [h]
    | identifier h hi => simp [h, hi]

theorem Entry.identity?_eq_none_iff_blank {e : Entry} :
    e.identity? = none ↔ e.normalizedEmail = "" ∧ e.identifier = "" := by
  rw [identity?]
  split_ifs with hm hi
  · simp [hm]
  · simp [hi]
  · simp [not_not.mp hm, not_not.mp hi]

instance (e : Entry) (K : Identity) : Decidable (e.HasIdentity K) :=
  decidable_of_iff (e.identity? = some K) Entry.identity?_eq_some_iff

theorem Entry.HasIdentity.unique {e : Entry} {K L : Identity} (hK : e.HasIdentity K)
    (hL : e.HasIdentity L) : K = L :=
  Option.some.inj ((identity?_eq_some_iff.mpr hK).symm.trans (identity?_eq_some_iff.mpr hL))

/-- The entries of one client under one protocol, in the order of the scan. -/
def copiesOf (entries : List Entry) (K : Identity) (protocol : String) : List Entry :=
  entries.filter fun e => e.HasIdentity K ∧ e.normalizedProtocol = protocol

@[simp] theorem mem_copiesOf {entries : List Entry} {K : Identity} {p : String} {e : Entry} :
    e ∈ copiesOf entries K p ↔ e ∈ entries ∧ e.HasIdentity K ∧ e.normalizedProtocol = p := by
  simp [copiesOf]

theorem copiesOf_eq_self {entries : List Entry} {K : Identity} {p : String}
    (h : ∀ e ∈ entries, e.HasIdentity K ∧ e.normalizedProtocol = p) :
    copiesOf entries K p = entries :=
  List.filter_eq_self.mpr fun e he => decide_eq_true (h e he)

variable {α : Type} {entry : α → Entry} {xs : List α}

theorem mem_identityGroups {g : IdentityGroup α} :
    g ∈ identityGroups entry xs ↔ (∃ x ∈ xs, (entry x).HasIdentity g.identity) ∧
      g.members = xs.filter fun x => (entry x).HasIdentity g.identity := by
  have hm : g ∈ identityGroups entry xs ↔
      (g.identity, g.members) ∈ classesByKey? (fun x => (entry x).identity?) xs := by
    simp only [identityGroups, List.mem_map, Prod.exists]
    exact ⟨fun ⟨_, _, h, he⟩ => he ▸ h, fun h => ⟨_, _, h, rfl⟩⟩
  simp only [hm, mem_classesByKey?, Entry.identity?_eq_some_iff]

theorem identityGroups_identities_nodup (entry : α → Entry) (xs : List α) :
    ((identityGroups entry xs).map (·.identity)).Nodup := by
  simpa [identityGroups, Function.comp_def] using
    classesByKey?_keys_nodup (fun x => (entry x).identity?) xs

theorem mem_protocolGroups {g : ProtocolGroup α} :
    g ∈ protocolGroups entry xs ↔ 2 ≤ g.members.length ∧
      g.members = xs.filter fun x => (entry x).normalizedProtocol = g.protocol := by
  have hm : g ∈ protocolGroups entry xs ↔ 2 ≤ g.members.length ∧ (g.protocol, g.members) ∈
      classesByKey? (fun x => some (entry x).normalizedProtocol) xs := by
    simp only [protocolGroups, classesByKey_eq, List.mem_map, List.mem_filter, decide_eq_true_eq,
      Prod.exists]
    exact ⟨fun ⟨_, _, ⟨h, hl⟩, he⟩ => he ▸ ⟨hl, h⟩, fun ⟨hl, h⟩ => ⟨_, _, ⟨h, hl⟩, rfl⟩⟩
  simp only [hm, mem_classesByKey?, Option.some.injEq]
  constructor
  · rintro ⟨hl, -, h⟩
    exact ⟨hl, h⟩
  · rintro ⟨hl, h⟩
    -- two members are more than enough to show that the class is not empty
    obtain ⟨x, hx⟩ := List.exists_mem_of_length_pos (Nat.lt_of_lt_of_le Nat.zero_lt_two hl)
    rw [h, List.mem_filter, decide_eq_true_eq] at hx
    exact ⟨hl, ⟨x, hx⟩, h⟩

theorem protocolGroups_protocols_nodup (entry : α → Entry) (xs : List α) :
    ((protocolGroups entry xs).map (·.protocol)).Nodup := by
  have h := classesByKey?_keys_nodup (fun x => some (entry x).normalizedProtocol) xs
  rw [← classesByKey_eq] at h
  simpa [protocolGroups, Function.comp_def] using (List.filter_sublist.map _).nodup h

end FleetDrift
