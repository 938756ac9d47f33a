import FleetDrift.Inventory.Scan
import FleetDrift.Proofs.Planning
import Mathlib.Algebra.GroupWithZero.Nat
import Mathlib.Data.List.Perm.Subperm
import Mathlib.Logic.Relation

/-! # Collections and the order of completion
Fetches end in any order, and only the timings show in which. What is put together is decided by
the position of each source, so a source that failed leaves nothing behind but its failure. -/
namespace FleetDrift

namespace Source

def copies (s : Source) : List Entry := s.outcome.entries.map (stamp s.origin)

def failure? (s : Source) : Option FetchFailure :=
  s.outcome.failure?.map fun message => ⟨s.origin.id, s.origin.name, message⟩

def Succeeds (s : Source) : Prop := s.outcome.failure? = none

instance (s : Source) : Decidable s.Succeeds := inferInstanceAs (Decidable (_ = _))

def okTiming (s : Source) : Timing :=
  ⟨.fetch, s.origin.id, s.milliseconds, s.outcome.entries.length, true⟩

variable {s : Source}

theorem succeeds_iff : s.Succeeds ↔ ∃ es, s.outcome = .fetched es := by
  rw [Succeeds]
  cases s.outcome <;> simp [FetchOutcome.failure?]

theorem failure?_of_succeeds (h : s.Succeeds) : s.failure? = none := by
  rw [failure?, h, Option.map_none]

theorem copies_of_not_succeeds (h : ¬ s.Succeeds) : s.copies = [] := by
  rw [succeeds_iff] at h
  rw [copies]
  cases ho : s.outcome with
  | fetched es => exact absurd ⟨es, ho⟩ h
  | failed causes => rfl
  | aborted task message => rfl

/-- Only an aborted fetch goes untimed; a failed one is timed without entries. -/
theorem timing?_cases (s : Source) :
    (s.Succeeds ∧ s.timing? = some s.okTiming) ∨ ¬ s.Succeeds ∧
      (s.timing? = none ∨ s.timing? = some ⟨.fetch, s.origin.id, s.milliseconds, 0, false⟩) := by
  rw [succeeds_iff]
  cases ho : s.outcome with
  | fetched es => exact .inl ⟨⟨es, rfl⟩, by simp [timing?, okTiming, ho, FetchOutcome.entries]⟩
  | failed causes => exact .inr ⟨by simp, .inr (by simp [timing?, ho])⟩
  | aborted task message => exact .inr ⟨by simp, .inl (by simp [timing?, ho])⟩

end Source

variable {sources : List Source} {order ended : List Nat}

namespace Snapshot

def ofSources (sources : List Source) : Snapshot :=
  ⟨sources.flatMap Source.copies, sources.filterMap Source.failure?⟩

theorem add_eq (snapshot : Snapshot) (s : Source) : snapshot.add s.origin s.outcome =
    ⟨snapshot.entries ++ s.copies, snapshot.failures ++ s.failure?.toList⟩ := by
  rw [add, Source.copies, Source.failure?]
  cases s.outcome <;> simp [FetchOutcome.failure?, FetchOutcome.entries]

theorem ofSources_append_singleton (sources : List Source) (s : Source) :
    ofSources (sources ++ [s]) = (ofSources sources).add s.origin s.outcome := by
  rw [add_eq, ofSources, ofSources, List.flatMap_append, List.filterMap_append,
    List.flatMap_singleton, List.filterMap_cons, List.filterMap_nil]
  cases s.failure? <;> rfl

theorem foldl_add (sources : List Source) (snapshot : Snapshot) :
    sources.foldl (fun snapshot s => snapshot.add s.origin s.outcome) snapshot =
      ⟨snapshot.entries ++ (ofSources sources).entries,
        snapshot.failures ++ (ofSources sources).failures⟩ := by
  induction sources generalizing snapshot with
  | nil => simp [ofSources]
  | cons s sources ih =>
    rw [List.foldl_cons, ih, add_eq]
    simp only [ofSources, List.flatMap_cons, List.append_assoc]
    cases hf : s.failure? <;> simp [hf]

/-- Sources that failed give no entries, and the others no failures. -/
theorem ofSources_filter_succeeds (sources : List Source) :
    ofSources (sources.filter (·.Succeeds)) = ⟨(ofSources sources).entries, []⟩ := by
  induction sources with
  | nil => rfl
  | cons s sources ih =>
    have hentries := congrArg Snapshot.entries ih
    have hfailures := congrArg Snapshot.failures ih
    simp only [ofSources] at hentries hfailures ⊢
    by_cases h : s.Succeeds
    · rw [List.filter_cons_of_pos (by simpa using h), List.flatMap_cons, List.flatMap_cons,
        hentries, List.filterMap_cons_none (Source.failure?_of_succeeds h), hfailures]
    · rw [List.filter_cons_of_neg (by simpa using h), List.flatMap_cons,
        Source.copies_of_not_succeeds h, List.nil_append, hentries, hfailures]

end Snapshot

namespace Collection

structure After (sources : List Source) (ended : List Nat) (c : Collection) : Prop where
  outcomes : ∀ i, c.outcomes[i]? =
    sources[i]?.map fun s => if i ∈ ended then some s.outcome else none
  timings : c.perf.timings = ended.filterMap fun i => sources[i]?.bind Source.timing?
  fetched : c.perf.totalEntriesFetched = (c.perf.timings.map (·.entries)).sum

theorem after_start (sources : List Source) : After sources [] (start sources) :=
  ⟨fun i => by simp only [start, List.getElem?_map, List.not_mem_nil, if_false], rfl, rfl⟩

theorem operation_of_timing? {s : Source} {t : Timing} (h : s.timing? = some t) :
    t.operation = .fetch := by
  rcases s.timing?_cases with ⟨-, hs⟩ | ⟨-, hs | hs⟩ <;> rw [hs] at h <;> cases h <;> rfl

theorem After.complete {c : Collection} (h : After sources ended c) (i : Nat) :
    After sources (ended ++ [i]) (complete sources c i) := by
  rw [Collection.complete]
  cases hs : sources[i]? with
  | none =>
    refine ⟨fun j => ?_, ?_, h.fetched⟩
    · rw [h.outcomes]
      by_cases hij : j = i
      · rw [hij, hs, Option.map_none, Option.map_none]
      · simp [hij]
    · rw [List.filterMap_append, h.timings]
      simp [hs]
  | some s =>
    refine ⟨fun j => ?_, ?_, ?_⟩
    · dsimp only
      by_cases hij : i = j
      · subst hij
        -- every source has a place among the outcomes
        have hsome := h.outcomes i
        rw [hs, Option.map_some] at hsome
        rw [List.getElem?_set_self (List.getElem?_eq_some_iff.mp hsome).1, hs]
        simp
      · rw [List.getElem?_set_ne hij, h.outcomes]
        simp [Ne.symm hij]
    · dsimp only
      rw [List.filterMap_append, ← h.timings]
      cases ht : s.timing? <;> simp [PerfReport.record, hs, ht]
    · dsimp only
      cases ht : s.timing? with
      | none => exact h.fetched
      | some t => simp [PerfReport.record, h.fetched, operation_of_timing? ht]

theorem After.foldl {c : Collection} (h : After sources ended c) (order : List Nat) :
    After sources (ended ++ order) (order.foldl (Collection.complete sources) c) := by
  induction order generalizing ended c with
  | nil => rwa [List.append_nil]
  | cons i order ih =>
    rw [List.foldl_cons, List.append_cons]
    exact ih (h.complete i)

theorem after_run (sources : List Source) (order : List Nat) :
    After sources order (run sources order) :=
  (after_start sources).foldl order

theorem After.outcomes_of_all {c : Collection} (h : After sources ended c)
    (hall : ∀ i < sources.length, i ∈ ended) :
    c.outcomes = sources.map fun s => some s.outcome := by
  refine List.ext_getElem? fun i => ?_
  rw [h.outcomes, List.getElem?_map]
  cases hs : sources[i]? with
  | none => rfl
  | some s =>
    obtain ⟨hi, -⟩ := List.getElem?_eq_some_iff.mp hs
    rw [Option.map_some, Option.map_some, if_pos (hall i hi)]

/-- Once all fetches have ended, what is put together is what the sources give. -/
theorem After.snapshot_of_all {c : Collection} (h : After sources ended c)
    (hall : ∀ i < sources.length, i ∈ ended) :
    c.snapshot sources = .ofSources sources := by
  rw [snapshot, h.outcomes_of_all hall, List.zip_map_right, List.foldl_map, List.zip_eq_zipWith,
    List.zipWith_self, List.foldl_map]
  exact (Snapshot.foldl_add sources .empty).trans rfl

end Collection

theorem filterMap_range_getElem? {α β : Type} (f : α → Option β) (xs : List α) :
    ((List.range xs.length).filterMap fun i => xs[i]?.bind f) = xs.filterMap f := by
  have hall : (List.range xs.length).map (fun i => xs[i]?) = xs.map some := by
    refine List.ext_getElem (by simp) fun i hi _ => ?_
    have hi' : i < xs.length := by simpa using hi
    simp [hi']
  have h := congrArg (List.filterMap fun o : Option α => o.bind f) hall
  rwa [List.filterMap_map, List.filterMap_map] at h

theorem filter_fetched_timings (sources : List Source) :
    (sources.filterMap Source.timing?).filter (fun t => t.operation = .fetch ∧ t.ok) =
      (sources.filter (·.Succeeds)).map Source.okTiming := by
  induction sources with
  | nil => rfl
  | cons s sources ih =>
    rcases s.timing?_cases with ⟨hs, ht⟩ | ⟨hs, ht | ht⟩
    · rw [List.filterMap_cons_some ht, List.filter_cons_of_pos (by simp [Source.okTiming]),
        List.filter_cons_of_pos (by simpa using hs), List.map_cons, ih]
    · rw [List.filterMap_cons_none ht, List.filter_cons_of_neg (by simpa using hs), ih]
    · rw [List.filterMap_cons_some ht, List.filter_cons_of_neg (by simp),
        List.filter_cons_of_neg (by simpa using hs), ih]

theorem sum_entries_timings (sources : List Source) :
    ((sources.filterMap Source.timing?).map (·.entries)).sum =
      (sources.flatMap Source.copies).length := by
  induction sources with
  | nil => rfl
  | cons s sources ih =>
    rw [List.flatMap_cons, List.length_append, ← ih]
    rcases s.timing?_cases with ⟨-, ht⟩ | ⟨hs, ht | ht⟩
    · rw [List.filterMap_cons_some ht, List.map_cons, List.sum_cons, Source.copies,
        List.length_map, Source.okTiming]
    · rw [List.filterMap_cons_none ht, Source.copies_of_not_succeeds hs, List.length_nil,
        Nat.zero_add]
    · rw [List.filterMap_cons_some ht, Source.copies_of_not_succeeds hs, List.map_cons,
        List.sum_cons, List.length_nil]

/-- What a collection owes to its sources: the entries of all that succeeded and the failures of all
others, in the order of the sources, and a timing for each success. -/
structure Collected (sources : List Source) (snapshot : Snapshot) (perf : PerfReport) : Prop where
  entries : snapshot.entries = sources.flatMap Source.copies
  failures : snapshot.failures = sources.filterMap Source.failure?
  fetched : perf.totalEntriesFetched = snapshot.entries.length
  timings : (perf.timings.filter fun t => t.operation = .fetch ∧ t.ok).Perm
    ((sources.filter (·.Succeeds)).map Source.okTiming)

/-- The timing of the analysis is no fetch. -/
theorem Collected.recordAnalysis {snapshot : Snapshot} {perf : PerfReport}
    (h : Collected sources snapshot perf) (entries milliseconds : Nat) :
    Collected sources snapshot (perf.recordAnalysis entries milliseconds) where
  entries := h.entries
  failures := h.failures
  fetched := by simpa [PerfReport.recordAnalysis, PerfReport.record] using h.fetched
  timings := by
    rw [PerfReport.recordAnalysis, PerfReport.record, List.filter_append]
    simpa using h.timings

theorem collectInOrder_snapshot (h : order.Perm (List.range sources.length)) :
    (collectInOrder sources order).1 = .ofSources sources :=
  (Collection.after_run sources order).snapshot_of_all fun _ hi =>
    h.mem_iff.mpr (List.mem_range.mpr hi)

theorem collectInOrder_timings_perm (h : order.Perm (List.range sources.length)) :
    (collectInOrder sources order).2.timings.Perm (sources.filterMap Source.timing?) := by
  rw [← filterMap_range_getElem?]
  exact (Collection.after_run sources order).timings ▸ h.filterMap _

theorem collected_collectInOrder (h : order.Perm (List.range sources.length)) :
    Collected sources (collectInOrder sources order).1 (collectInOrder sources order).2 := by
  have hafter := Collection.after_run sources order
  have htimings := collectInOrder_timings_perm h
  refine ⟨?_, ?_, ?_, ?_⟩
  · rw [collectInOrder_snapshot h, Snapshot.ofSources]
  · rw [collectInOrder_snapshot h, Snapshot.ofSources]
  · rw [collectInOrder_snapshot h, Snapshot.ofSources, ← sum_entries_timings]
    exact hafter.fetched.trans (htimings.map _).sum_nat
  · rw [← filter_fetched_timings]
    exact htimings.filter _

/-- A collector that waits for the sources one after another while their fetches go on. In which
order these ended is noted but never looked at. -/
structure Collector where
  collection : Collection
  ended : List Nat
  snapshot : Snapshot
  taken : Nat

namespace Collector

def start (sources : List Source) : Collector := ⟨.start sources, [], .empty, 0⟩

/-- Any fetch that is under way may end next. The collector goes on when the outcome that it waits
for is there. -/
inductive Step (sources : List Source) : Collector → Collector → Prop where
  | ends {c : Collector} {i : Nat} (hrunning : c.collection.outcomes[i]? = some none) :
    Step sources c
      { c with collection := c.collection.complete sources i, ended := c.ended ++ [i] }
  | takes {c : Collector} {s : Source} {outcome : FetchOutcome} (hs : sources[c.taken]? = some s)
      (hthere : c.collection.outcomes[c.taken]? = some (some outcome)) :
    Step sources c
      { c with snapshot := c.snapshot.add s.origin outcome, taken := c.taken + 1 }

inductive Reachable (sources : List Source) : Collector → Prop where
  | start : Reachable sources (start sources)
  | step {c d : Collector} : Reachable sources c → Step sources c d → Reachable sources d

structure Invariant (sources : List Source) (c : Collector) : Prop where
  collection : c.collection = .run sources c.ended
  once : c.ended.Nodup
  inside : ∀ i ∈ c.ended, i < sources.length
  waited : ∀ i < c.taken, i ∈ c.ended
  within : c.taken ≤ sources.length
  snapshot : c.snapshot = .ofSources (sources.take c.taken)

variable {c d : Collector}

theorem Invariant.after (h : Invariant sources c) :
    Collection.After sources c.ended c.collection :=
  h.collection ▸ Collection.after_run sources c.ended

theorem Step.preserves_invariant (hstep : Step sources c d) (h : Invariant sources c) :
    Invariant sources d := by
  cases hstep with
  | @ends i hrunning =>
    -- only a fetch without an outcome is under way, so none ends twice
    rw [h.after.outcomes, Option.map_eq_some_iff] at hrunning
    obtain ⟨s, hs, hnone⟩ := hrunning
    have hnew : i ∉ c.ended := fun hi => by simp [hi] at hnone
    refine ⟨?_, ?_, ?_, fun j hj => List.mem_append_left _ (h.waited j hj), h.within, h.snapshot⟩
    · rw [h.collection, Collection.run, Collection.run, List.foldl_append]
      rfl
    · exact List.nodup_append.mpr ⟨h.once, List.nodup_singleton i, by
        rintro j hj k hk rfl
        exact hnew (List.mem_singleton.mp hk ▸ hj)⟩
    · rw [List.forall_mem_append, List.forall_mem_singleton]
      exact ⟨h.inside, (List.getElem?_eq_some_iff.mp hs).1⟩
  | @takes s outcome hs hthere =>
    -- an outcome that is there is that of a fetch that ended
    obtain ⟨hlt, hget⟩ := List.getElem?_eq_some_iff.mp hs
    rw [h.after.outcomes, hs, Option.map_some, Option.some_inj] at hthere
    have hended : c.taken ∈ c.ended := by
      by_contra hno
      simp [hno] at hthere
    rw [if_pos hended, Option.some_inj] at hthere
    refine ⟨h.collection, h.once, h.inside, fun j hj => ?_, hlt, ?_⟩
    · rcases Nat.lt_succ_iff_lt_or_eq.mp hj with hj | rfl
      · exact h.waited j hj
      · exact hended
    · dsimp only
      rw [List.take_add_one, hs, Option.toList_some, Snapshot.ofSources_append_singleton,
        ← h.snapshot, hthere]

theorem Reachable.invariant (h : Reachable sources c) : Invariant sources c := by
  induction h with
  | start => exact ⟨rfl, List.nodup_nil, List.forall_mem_nil _,
      fun _ hi => absurd hi (Nat.not_lt_zero _), Nat.zero_le _, rfl⟩
  | step _ hstep ih => exact hstep.preserves_invariant ih

/-- A collector that waits is not stuck: either the outcome is there, or a fetch is under way. -/
theorem exists_step (h : Reachable sources c) (hlt : c.taken < sources.length) :
    ∃ d, Step sources c d := by
  have hplace := h.invariant.after.outcomes c.taken
  rw [List.getElem?_eq_getElem hlt, Option.map_some] at hplace
  split_ifs at hplace
  · exact ⟨_, .takes (List.getElem?_eq_getElem hlt) hplace⟩
  · exact ⟨_, .ends hplace⟩

theorem Step.length_ended_add_taken (h : Step sources c d) :
    d.ended.length + d.taken = c.ended.length + c.taken + 1 := by
  cases h with
  | ends hrunning => rw [List.length_append, List.length_singleton, Nat.add_right_comm]
  | takes hs hthere => rfl

theorem Reachable.length_ended_add_taken_le (h : Reachable sources c) :
    c.ended.length + c.taken ≤ 2 * sources.length := by
  have hsub : c.ended ⊆ List.range sources.length := fun i hi =>
    List.mem_range.mpr (h.invariant.inside i hi)
  have hlength := (h.invariant.once.subperm hsub).length_le
  rw [List.length_range] at hlength
  have hwithin := h.invariant.within
  omega

structure Finished (sources : List Source) (c : Collector) : Prop where
  reachable : Reachable sources c
  taken : c.taken = sources.length

/-- Each step brings the end nearer, so from everywhere it is reached. -/
theorem Reachable.exists_finished {c : Collector} (h : Reachable sources c) :
    ∃ d, Relation.ReflTransGen (Step sources) c d ∧ Finished sources d := by
  by_cases hlt : c.taken < sources.length
  · obtain ⟨d, hstep⟩ := exists_step h hlt
    have hmore := hstep.length_ended_add_taken
    have hbound := (h.step hstep).length_ended_add_taken_le
    obtain ⟨e, hsteps, hfinished⟩ := (h.step hstep).exists_finished
    exact ⟨e, .head hstep hsteps, hfinished⟩
  · exact ⟨c, .refl, h, Nat.le_antisymm h.invariant.within (Nat.le_of_not_lt hlt)⟩
termination_by 2 * sources.length - (c.ended.length + c.taken)

theorem Finished.ended_perm (h : Finished sources c) :
    c.ended.Perm (List.range sources.length) := by
  have hinv := h.reachable.invariant
  refine (List.perm_ext_iff_of_nodup hinv.once List.nodup_range).mpr fun i => ?_
  rw [List.mem_range]
  exact ⟨hinv.inside i, fun hi => hinv.waited i (h.taken ▸ hi)⟩

/-- Whatever is interleaved with the waiting, the result is that of the order of completion. -/
theorem Finished.eq_collectInOrder (h : Finished sources c) :
    (c.snapshot, c.collection.perf) = collectInOrder sources c.ended := by
  have hinv := h.reachable.invariant
  refine Prod.ext ?_ ?_
  · rw [collectInOrder_snapshot h.ended_perm, hinv.snapshot, h.taken, List.take_length]
  · rw [hinv.collection]
    rfl

end Collector

/-- The order of completion does not show in the snapshot, nor what was put together before the last
fetch ended, and sources that fail do not show in its entries. -/
structure OrderIndependent (sources : List Source) (order others : List Nat) : Prop where
  collected : Collected sources (collectInOrder sources order).1 (collectInOrder sources order).2
  analysed : ∀ milliseconds, Collected sources (collectInOrder sources order).1
    ((collectInOrder sources order).2.recordAnalysis
      (collectInOrder sources order).1.entries.length milliseconds)
  snapshot : (collectInOrder sources order).1 = (collect sources).1
  successes : (collectInOrder (sources.filter (·.Succeeds)) others).1 =
    ⟨(collectInOrder sources order).1.entries, []⟩
  report : (Scan.ofSnapshot (collectInOrder (sources.filter (·.Succeeds)) others).1).report =
    (Scan.ofSnapshot (collectInOrder sources order).1).report
  interleaved : ∀ c, Collector.Finished sources c →
    c.snapshot = (collectInOrder sources order).1 ∧
      Collected sources c.snapshot c.collection.perf

theorem collected_in_any_order (h : order.Perm (List.range sources.length)) {others : List Nat}
    (ho : others.Perm (List.range (sources.filter (·.Succeeds)).length)) :
    OrderIndependent sources order others := by
  have hsnapshot := collectInOrder_snapshot h
  have hcollected := collected_collectInOrder h
  have hsuccesses : (collectInOrder (sources.filter (·.Succeeds)) others).1 =
      ⟨(collectInOrder sources order).1.entries, []⟩ := by
    rw [collectInOrder_snapshot ho, hsnapshot, Snapshot.ofSources_filter_succeeds]
  refine ⟨hcollected, hcollected.recordAnalysis _, ?_, hsuccesses, ?_, fun c hc => ?_⟩
  · rw [hsnapshot, collect, collectInOrder_snapshot (List.Perm.refl _)]
  · rw [hsuccesses, Scan.ofSnapshot, Scan.ofSnapshot]
  · have hcs : c.snapshot = (collectInOrder sources c.ended).1 :=
      congrArg Prod.fst hc.eq_collectInOrder
    have hcp : c.collection.perf = (collectInOrder sources c.ended).2 :=
      congrArg Prod.snd hc.eq_collectInOrder
    rw [hcs, hcp]
    refine ⟨?_, collected_collectInOrder hc.ended_perm⟩
    rw [hsnapshot, collectInOrder_snapshot hc.ended_perm]

/-- A source that gives one entry, one that fails, one that is aborted, and one that gives none. -/
def mixedSources : List Source :=
  [⟨⟨"a", "Amber"⟩, .fetched [vlessCopy "x" "u1" true 1000], 30⟩,
   ⟨⟨"b", "b"⟩, .failed ["Failed to read inbound export b.json", "No such file"], 2⟩,
   ⟨⟨"c", "c"⟩, .aborted "7" "out of range", 5⟩,
   ⟨⟨"a", "Amber"⟩, .fetched [], 1⟩]

theorem collected_mixedSources :
    [2, 3, 0, 1].Perm (List.range mixedSources.length) ∧
      [1, 0].Perm (List.range (mixedSources.filter (·.Succeeds)).length) ∧
      OrderIndependent mixedSources [2, 3, 0, 1] [1, 0] := by
  have horder : [2, 3, 0, 1].Perm (List.range mixedSources.length) := by decide +kernel
  have hothers : [1, 0].Perm (List.range (mixedSources.filter (·.Succeeds)).length) := by
    decide +kernel
  exact ⟨horder, hothers, collected_in_any_order horder hothers⟩

end FleetDrift
