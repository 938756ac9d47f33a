import FleetDrift.Proofs.CompletionOrder

/-! # Timings of fetches
Every fetch that ends by itself is timed once, whether it gave entries or failed. The timing is noted
by the task of the fetch, so a task that is aborted takes its timing along, although the collector
still notes the failure. -/
namespace FleetDrift

def FetchOutcome.isAborted : FetchOutcome → Bool
  | .fetched _ => false
  | .failed _ => false
  | .aborted _ _ => true

namespace Source

/-- The timing that accounts for a source: with all that it contributes, and ok unless it is among
the failures. -/
def due (s : Source) : Timing :=
  ⟨.fetch, s.origin.id, s.milliseconds, s.copies.length, s.failure?.isNone⟩

theorem timing?_eq_due (s : Source) :
    s.timing? = if s.outcome.isAborted then none else some s.due := by
  rw [timing?, due, copies, failure?, List.length_map, Option.isNone_map]
  cases s.outcome with
  | fetched es => rfl
  | failed causes => rfl
  | aborted task message => rfl

theorem filterMap_timing? (sources : List Source) : sources.filterMap timing? =
    (sources.filter fun s => !s.outcome.isAborted).map due := by
  induction sources with
  | nil => rfl
  | cons s sources ih =>
    by_cases h : s.outcome.isAborted
    · have ht : s.timing? = none := by rw [timing?_eq_due, if_pos h]
      rw [List.filterMap_cons_none ht, List.filter_cons_of_neg (by simp [h]), ih]
    · have ht : s.timing? = some s.due := by rw [timing?_eq_due, if_neg h]
      rw [List.filterMap_cons_some ht, List.filter_cons_of_pos (by simp [h]), List.map_cons, ih]

end Source

variable {sources : List Source} {order : List Nat} {snapshot : Snapshot} {perf : PerfReport}

/-- A sublist by a predicate has as many timings as the whole only if it is the whole. -/
theorem due_filter_perm_iff {p : Source → Bool} :
    ((sources.filter p).map Source.due).Perm (sources.map Source.due) ↔ ∀ s ∈ sources, p s := by
  constructor
  · intro h
    have hlength := h.length_eq
    rw [List.length_map, List.length_map] at hlength
    exact List.length_filter_eq_length_iff.mp hlength
  · intro h
    rw [List.filter_eq_self.mpr h]

def PerfReport.fetches (r : PerfReport) : List Timing :=
  r.timings.filter fun t => t.operation = .fetch

structure Accounted (sources : List Source) (snapshot : Snapshot) (perf : PerfReport) : Prop where
  entries : snapshot.entries = sources.flatMap Source.copies
  failures : snapshot.failures = sources.filterMap Source.failure?
  timed : perf.fetches.Perm ((sources.filter fun s => !s.outcome.isAborted).map Source.due)
  allTimed : perf.fetches.Perm (sources.map Source.due) ↔
    ∀ s ∈ sources, s.outcome.isAborted = false

theorem Accounted.of_timed (h : Collected sources snapshot perf)
    (ht : perf.fetches.Perm ((sources.filter fun s => !s.outcome.isAborted).map Source.due)) :
    Accounted sources snapshot perf := by
  refine ⟨h.entries, h.failures, ht, ?_⟩
  rw [ht.congr_left, due_filter_perm_iff]
  simp only [Bool.not_eq_true']

theorem fetches_recordAnalysis (perf : PerfReport) (entries milliseconds : Nat) :
    (perf.recordAnalysis entries milliseconds).fetches = perf.fetches := by
  rw [PerfReport.recordAnalysis, PerfReport.record, PerfReport.fetches, List.filter_append]
  simp [PerfReport.fetches]

theorem accounted_collectInOrder (h : order.Perm (List.range sources.length)) :
    Accounted sources (collectInOrder sources order).1 (collectInOrder sources order).2 := by
  refine Accounted.of_timed (collected_collectInOrder h) ?_
  have hperm := collectInOrder_timings_perm h
  have hfetch : ∀ t ∈ (collectInOrder sources order).2.timings, t.operation = .fetch := by
    intro t ht
    obtain ⟨s, -, hs⟩ := List.mem_filterMap.mp (hperm.mem_iff.mp ht)
    exact Collection.operation_of_timing? hs
  rw [PerfReport.fetches, List.filter_eq_self.mpr (by simpa using hfetch),
    ← Source.filterMap_timing?]
  exact hperm

/-- In whatever order the fetches end, and however this is interleaved with the waiting, there is
one timing for every source whose task was not aborted, before the analysis and after it. -/
theorem fetches_timed_unless_aborted (h : order.Perm (List.range sources.length)) :
    Accounted sources (collectInOrder sources order).1 (collectInOrder sources order).2 ∧
    (∀ milliseconds, Accounted sources (collectInOrder sources order).1
      ((collectInOrder sources order).2.recordAnalysis
        (collectInOrder sources order).1.entries.length milliseconds)) ∧
    ∀ c, Collector.Finished sources c → Accounted sources c.snapshot c.collection.perf := by
  have haccounted := accounted_collectInOrder h
  refine ⟨haccounted, ?_, ?_⟩
  · intro milliseconds
    refine Accounted.of_timed ((collected_collectInOrder h).recordAnalysis _ milliseconds) ?_
    rw [fetches_recordAnalysis]
    exact haccounted.timed
  · intro c hc
    have hcollector := accounted_collectInOrder hc.ended_perm
    rwa [← hc.eq_collectInOrder] at hcollector

theorem fetches_timed_mixedSources :
    [2, 3, 0, 1].Perm (List.range mixedSources.length) ∧
      (collectInOrder mixedSources [2, 3, 0, 1]).2.fetches.Perm
        [⟨.fetch, "a", 30, 1, true⟩, ⟨.fetch, "b", 2, 0, false⟩, ⟨.fetch, "a", 1, 0, true⟩] := by
  have horder : [2, 3, 0, 1].Perm (List.range mixedSources.length) := by decide +kernel
  exact ⟨horder, (fetches_timed_unless_aborted horder).1.timed⟩

def abortedSources : List Source :=
  [⟨⟨"a", "a"⟩, .fetched [], 0⟩, ⟨⟨"b", "b"⟩, .aborted "N" "out of range", 0⟩]

/-- The aborted fetch is a failure of the snapshot, yet no timing names it. -/
theorem aborted_fetch_untimed :
    [0, 1].Perm (List.range abortedSources.length) ∧
      (collectInOrder abortedSources [0, 1]).1.failures.map (·.serverId) = ["b"] ∧
      (∀ t ∈ (collectInOrder abortedSources [0, 1]).2.timings, t.target ≠ "b") ∧
      ¬ (collectInOrder abortedSources [0, 1]).2.fetches.Perm (abortedSources.map Source.due) := by
  decide +kernel

end FleetDrift
