import FleetDrift.Proofs.ForgedOrigins

/-! # Clients that are refused

A client that cannot be read costs its inbound all entries, and the fault names the first such
client as one that is no object. Arrays are no objects either, yet one that is short enough is read,
with the fields by position.
-/

namespace FleetDrift

open Json (Value Fields)

namespace Entry

/-- What is read as an entry: the shape alone decides, not what stands in it. -/
inductive Readable : Value → Prop
  | object (fields : Fields) : Readable (.object fields)
  | array {items : List Value} (short : items.length ≤ Key.all.length) : Readable (.array items)

theorem readable_iff {v : Value} : Readable v ↔ ∃ e, ofValue? v = .ok e := by
  constructor
  · rintro (fields | short)
    · exact ⟨_, rfl⟩
    · exact ⟨_, if_pos short⟩
  · rintro ⟨e, he⟩
    cases v with
    | object fields => exact .object fields
    | array items =>
      rw [ofValue?] at he
      split_ifs at he with hshort
      exact .array hshort
    | _ => cases he

theorem Readable.of_kind {v : Value} (h : v.kind = .object) : Readable v := by
  cases v with
  | object fields => exact .object fields
  | _ => cases h

end Entry

namespace Inbound

variable {origin : Origin} {inbound : Inbound} {client : Value} {clients : List Value}
  {index : Nat} {fault : InboundFault} {es : List Entry}

theorem entryOfClient_eq_error_iff : inbound.entryOfClient origin index client = .error fault ↔
    ∃ m, Entry.ofValue? client = .error m ∧ fault = .malformedClient inbound.id index m := by
  rw [entryOfClient]
  cases Entry.ofValue? client <;> simp [eq_comm]

theorem exists_entryOfClient_iff :
    (∃ e, inbound.entryOfClient origin index client = .ok e) ↔ Entry.Readable client := by
  rw [entryOfClient, Entry.readable_iff]
  cases Entry.ofValue? client <;> simp

/-- The fault is about the first of the clients that cannot be read, at its place among them. -/
def BlamesFirst (inbound : Inbound) (start : Nat) (clients : List Value) (fault : InboundFault) :
    Prop :=
  ∃ before client after m, clients = before ++ client :: after ∧
    (∀ v ∈ before, Entry.Readable v) ∧ ¬ Entry.Readable client ∧
    Entry.ofValue? client = .error m ∧
    fault = .malformedClient inbound.id (start + before.length) m

theorem BlamesFirst.exists_unreadable {start : Nat} (h : inbound.BlamesFirst start clients fault) :
    ∃ client ∈ clients, ¬ Entry.Readable client := by
  obtain ⟨before, client, after, m, rfl, -, hunreadable, -, -⟩ := h
  exact ⟨client, List.mem_append_right _ List.mem_cons_self, hunreadable⟩

theorem BlamesFirst.cons {start : Nat} (hclient : Entry.Readable client)
    (h : inbound.BlamesFirst (start + 1) clients fault) :
    inbound.BlamesFirst start (client :: clients) fault := by
  obtain ⟨before, refused, after, m, rfl, hbefore, hunreadable, hm, rfl⟩ := h
  refine ⟨client :: before, refused, after, m, rfl, List.forall_mem_cons.mpr ⟨hclient, hbefore⟩,
    hunreadable, hm, ?_⟩
  rw [List.length_cons, Nat.add_right_comm, Nat.add_assoc]

/-- Clients from a position on are refused for the first of them that cannot be read. -/
theorem BlamesFirst.of_entriesFrom {start : Nat}
    (h : inbound.entriesFrom origin start clients = .error fault) :
    inbound.BlamesFirst start clients fault := by
  induction clients generalizing start with
  | nil => cases h
  | cons client clients ih =>
    rw [entriesFrom] at h
    cases hclient : inbound.entryOfClient origin start client with
    | error refusal =>
      rw [hclient] at h
      cases h
      obtain ⟨m, hm, rfl⟩ := entryOfClient_eq_error_iff.mp hclient
      have hunreadable : ¬ Entry.Readable client := by
        intro hreadable
        obtain ⟨e, he⟩ : ∃ e, inbound.entryOfClient origin start client = .ok e :=
          exists_entryOfClient_iff.mpr hreadable
        rw [hclient] at he
        cases he
      exact ⟨[], client, clients, m, rfl, List.forall_mem_nil _, hunreadable, hm, rfl⟩
    | ok e =>
      have hreadable : Entry.Readable client := exists_entryOfClient_iff.mp ⟨e, hclient⟩
      rw [hclient] at h
      cases hrest : inbound.entriesFrom origin (start + 1) clients with
      | error refusal =>
        rw [hrest] at h
        cases h
        exact .cons hreadable (ih hrest)
      | ok es =>
        rw [hrest] at h
        cases h

theorem Stamped.readable {e : Entry} (h : inbound.Stamped origin client e) :
    Entry.Readable client := by
  obtain ⟨d, hd, -⟩ := h.decoded
  exact Entry.readable_iff.mpr ⟨d, hd⟩

theorem exists_entriesFrom_error_iff {start : Nat} :
    (∃ fault, inbound.entriesFrom origin start clients = .error fault) ↔
      ∃ client ∈ clients, ¬ Entry.Readable client := by
  constructor
  · rintro ⟨fault, h⟩
    exact (BlamesFirst.of_entriesFrom h).exists_unreadable
  · rintro ⟨client, hclient, hunreadable⟩
    cases h : inbound.entriesFrom origin start clients with
    | error fault => exact ⟨fault, rfl⟩
    | ok es =>
      have hstamped : List.Forall₂ (fun v e => Entry.Readable v ∧ inbound.Stamped origin v e)
          clients es := (entriesFrom_eq_ok_iff.mp h).imp fun _ _ he => ⟨he.readable, he⟩
      exact absurd (((List.forall₂_and_left _ _).mp hstamped).1 client hclient) hunreadable

/-- Listed clients give one entry each, or none when one of them cannot be read, and then the first
such client is named. Whether all are objects decides the same only where some client cannot be read
or all are objects, since short arrays pass. -/
theorem unreadable_clients_refused (origin : Origin) (hlisted : inbound.clientValues = .ok clients) :
    ((∃ fault, inbound.entries origin = .error fault) ↔
      ∃ client ∈ clients, ¬ Entry.Readable client) ∧
    (∀ fault, inbound.entries origin = .error fault →
      inbound.contribution origin = [] ∧ inbound.BlamesFirst 0 clients fault) ∧
    (∀ es, inbound.entries origin = .ok es →
      es.length = clients.length ∧ List.Forall₂ (inbound.Stamped origin) clients es) ∧
    (((∃ fault, inbound.entries origin = .error fault) ↔
        ∃ client ∈ clients, client.kind ≠ .object) ↔
      (∃ client ∈ clients, ¬ Entry.Readable client) ∨ ∀ client ∈ clients, client.kind = .object) := by
  have hentries : inbound.entries origin = inbound.entriesFrom origin 0 clients := by
    rw [entries, hlisted]
    rfl
  have hobjects : (∃ client ∈ clients, ¬ Entry.Readable client) →
      ∃ client ∈ clients, client.kind ≠ .object := by
    rintro ⟨client, hclient, hunreadable⟩
    exact ⟨client, hclient, fun hkind => hunreadable (.of_kind hkind)⟩
  rw [hentries, exists_entriesFrom_error_iff]
  refine ⟨Iff.rfl, ?_, ?_, ?_⟩
  · intro fault hfault
    refine ⟨?_, .of_entriesFrom hfault⟩
    rw [contribution, hentries, hfault]
  · intro es hes
    have hstamped := entriesFrom_eq_ok_iff.mp hes
    exact ⟨hstamped.length_eq.symm, hstamped⟩
  · constructor
    · intro hiff
      by_cases hall : ∀ client ∈ clients, client.kind = .object
      · exact .inr hall
      · exact .inl (hiff.mpr (by simpa using hall))
    · rintro (hunreadable | hall)
      · exact ⟨hobjects, fun _ => hunreadable⟩
      · refine ⟨hobjects, ?_⟩
        rintro ⟨client, hclient, hkind⟩
        exact absurd (hall client hclient) hkind

def listing (clients : List Value) : Inbound :=
  ⟨1, "r", "vless", .object [("clients", .array clients)]⟩

def mixedClients : List Value := [.object ownFields, .array [.null], .string "b", .null]

theorem unreadable_clients_refused_third :
    (listing mixedClients).clientValues = .ok mixedClients ∧
    ∃ fault, (listing mixedClients).entries ⟨"a", "a"⟩ = .error fault ∧
      fault.message = "inbound 1 client #2 is not an object" ∧
      (listing mixedClients).contribution ⟨"a", "a"⟩ = [] ∧
      (listing mixedClients).BlamesFirst 0 mixedClients fault := by
  have hlisted : (listing mixedClients).clientValues = .ok mixedClients := rfl
  have hfault : (listing mixedClients).entries ⟨"a", "a"⟩ =
      .error (.malformedClient 1 2 (.invalidType (.ofValue (.string "b")) "struct ClientEntry")) :=
    rfl
  obtain ⟨-, hrefused, -⟩ := unreadable_clients_refused ⟨"a", "a"⟩ hlisted
  exact ⟨hlisted, _, hfault, by decide +kernel, hrefused _ hfault⟩

/-- An empty array is no object, and an entry. -/
theorem array_client_accepted :
    (listing [.array []]).clientValues = .ok [.array []] ∧
    ((listing [.array []]).contribution ⟨"a", "a"⟩).length = 1 ∧
    ¬ ((∃ fault, (listing [.array []]).entries ⟨"a", "a"⟩ = .error fault) ↔
      ∃ client ∈ [Value.array []], client.kind ≠ .object) := by
  refine ⟨rfl, rfl, ?_⟩
  intro hiff
  obtain ⟨fault, hfault⟩ := hiff.mpr ⟨.array [], List.mem_singleton_self _, by decide⟩
  cases hfault

end Inbound

end FleetDrift
