import FleetDrift.Proofs.Addresses
import FleetDrift.Proofs.CompletionOrder
import FleetDrift.Settings.Basic

/-! # Copies and the backends they came from
Settings are accepted when no two backends have the same id. Collecting stamps the id on every entry
and a locator begins with it, so the copies of two backends have no address in common, whatever the
records said of their origin. -/
namespace FleetDrift

namespace Settings

structure DistinctIds (backends : List Backend) : Prop where
  notBlank : ∀ b ∈ backends, Text.trim b.id ≠ ""
  distinct : backends.Pairwise fun a b => a.id ≠ b.id

theorem checkBackends_eq_ok_iff {seen : List String} {backends : List Backend} :
    checkBackends seen backends = .ok () ↔
      DistinctIds backends ∧ ∀ b ∈ backends, b.id ∉ seen := by
  induction backends generalizing seen with
  | nil =>
    have hnone : DistinctIds [] := ⟨List.forall_mem_nil _, .nil⟩
    simp [checkBackends, hnone]
  | cons b rest ih =>
    rw [checkBackends]
    split_ifs with hblank hseen
    · refine ⟨nofun, ?_⟩
      rintro ⟨⟨hids, -⟩, -⟩
      exact absurd hblank (hids b List.mem_cons_self)
    · refine ⟨nofun, ?_⟩
      rintro ⟨-, hnew⟩
      exact absurd hseen (hnew b List.mem_cons_self)
    · rw [ih]
      constructor
      · rintro ⟨⟨hids, hdistinct⟩, hnew⟩
        refine ⟨⟨List.forall_mem_cons.mpr ⟨hblank, hids⟩, List.pairwise_cons.mpr ⟨?_, hdistinct⟩⟩,
          List.forall_mem_cons.mpr ⟨hseen, ?_⟩⟩
        · exact fun a ha hba => hnew a ha (hba ▸ List.mem_cons_self)
        · exact fun a ha has => hnew a ha (List.mem_cons_of_mem _ has)
      · rintro ⟨⟨hids, hdistinct⟩, hnew⟩
        obtain ⟨hb, hrest⟩ := List.pairwise_cons.mp hdistinct
        refine ⟨⟨fun a ha => hids a (List.mem_cons_of_mem _ ha), hrest⟩, fun a ha hmem => ?_⟩
        rcases List.mem_cons.mp hmem with heq | has
        · exact hb a ha heq.symm
        · exact hnew a (List.mem_cons_of_mem _ ha) has

theorem check_eq_ok_iff {s t : Settings} : s.check = .ok t ↔ DistinctIds s.backends ∧ s = t := by
  have hids : checkBackends [] s.backends = .ok () ↔ DistinctIds s.backends := by
    simp [checkBackends_eq_ok_iff]
  rw [check, ← hids]
  cases checkBackends [] s.backends with
  | error fault => simp [bind, Except.bind]
  | ok _ => simp [bind, Except.bind]

end Settings

namespace Backend

def source (b : Backend) (outcome : FetchOutcome) (milliseconds : Nat) : Source :=
  ⟨b.origin, outcome, milliseconds⟩

def copies (b : Backend) (outcome : FetchOutcome) : List Entry :=
  outcome.entries.map fun e =>
    { e with serverId := b.id, serverName := b.name.getD b.id }

variable {a b : Backend} {outcome outcome' : FetchOutcome} {e f : Entry}

theorem copies_source (b : Backend) (outcome : FetchOutcome) (milliseconds : Nat) :
    (b.source outcome milliseconds).copies = b.copies outcome := rfl

theorem stamped_of_mem_copies (h : e ∈ b.copies outcome) :
    e.serverId = b.id ∧ e.serverName = b.name.getD b.id := by
  obtain ⟨record, -, rfl⟩ := List.mem_map.mp h
  exact ⟨rfl, rfl⟩

/-- Different ids keep locators apart, whatever characters they are made of. -/
theorem locator_ne_of_id_ne (hid : a.id ≠ b.id) (he : e ∈ a.copies outcome)
    (hf : f ∈ b.copies outcome') : e.locator ≠ f.locator := by
  intro hlocator
  have hserver : e.serverId = f.serverId := (Entry.locator_eq_iff.mp hlocator).server
  rw [(stamped_of_mem_copies he).1, (stamped_of_mem_copies hf).1] at hserver
  exact hid hserver

end Backend

structure Attributed (backends : List Backend) (fetch : Backend → FetchOutcome)
    (entries : List Entry) : Prop where
  collected : entries = backends.flatMap fun b => b.copies (fetch b)
  stamped : ∀ b ∈ backends, ∀ e ∈ b.copies (fetch b),
    e.serverId = b.id ∧ e.serverName = b.name.getD b.id
  apart : backends.Pairwise fun a b =>
    ∀ e ∈ a.copies (fetch a), ∀ f ∈ b.copies (fetch b), e.locator ≠ f.locator

/-- Whatever the backends of accepted settings give, and in whatever order. -/
theorem collected_copies_attributed {settings accepted : Settings}
    (h : settings.check = .ok accepted) (fetch : Backend → FetchOutcome) (delay : Backend → Nat)
    {order : List Nat} (ho : order.Perm (List.range accepted.backends.length)) :
    Attributed accepted.backends fetch (collectInOrder
      (accepted.backends.map fun b => b.source (fetch b) (delay b)) order).1.entries := by
  obtain ⟨⟨-, hdistinct⟩, rfl⟩ := Settings.check_eq_ok_iff.mp h
  refine ⟨?_, fun b _ e he => Backend.stamped_of_mem_copies he, ?_⟩
  · rw [collectInOrder_snapshot (by rwa [List.length_map]), Snapshot.ofSources, List.flatMap_map]
    simp only [Backend.copies_source]
  · exact hdistinct.imp fun hid e he f hf => Backend.locator_ne_of_id_ne hid he hf

/-- Two ids that would be the same if bars were not escaped, or escapes not escaped again. -/
def barredSettings : Settings :=
  ⟨[⟨"a|1", none, .json, "one.json"⟩, ⟨"a%7C1", some "a|1", .sqlite, "two.db"⟩], "reports"⟩

theorem attributed_barredSettings :
    barredSettings.check = .ok barredSettings ∧
      [1, 0].Perm (List.range barredSettings.backends.length) ∧
      Attributed barredSettings.backends (fun _ => .fetched [vlessCopy "a|1" "u1" true 1000])
        (collectInOrder (barredSettings.backends.map fun b =>
          b.source (.fetched [vlessCopy "a|1" "u1" true 1000]) 5) [1, 0]).1.entries := by
  have hids : Settings.DistinctIds barredSettings.backends :=
    ⟨by decide +kernel, by decide +kernel⟩
  have hcheck : barredSettings.check = .ok barredSettings :=
    Settings.check_eq_ok_iff.mpr ⟨hids, rfl⟩
  have horder : [1, 0].Perm (List.range barredSettings.backends.length) := by decide +kernel
  exact ⟨hcheck, horder, collected_copies_attributed hcheck _ _ horder⟩

end FleetDrift
