import FleetDrift.Inventory.Backend
import FleetDrift.Report.Basic
import FleetDrift.Text.Quoted

/-!
# Collecting a fleet

All sources are fetched at the same time and end in any order. What they gave is put together in the
order of the sources, stamped with their origin; a source that fails or is aborted is noted as a
failure and leaves the others alone. Timings are noted in the order of completion.
-/

namespace FleetDrift

inductive FetchOutcome where
  | fetched (entries : List Entry)
  | failed (causes : List String)
  /-- The task broke off with a message, before its timing could be noted. -/
  | aborted (task message : String)

def FetchOutcome.failure? : FetchOutcome → Option String
  | .fetched _ => none
  | .failed causes => some (String.intercalate ": " causes)
  | .aborted task message =>
    some ("fetch task aborted: task " ++ task ++ " panicked with message " ++ Text.quoted message)

def FetchOutcome.entries : FetchOutcome → List Entry
  | .fetched es => es
  | .failed _ => []
  | .aborted _ _ => []

structure Source where
  origin : Origin
  outcome : FetchOutcome
  milliseconds : Nat

inductive Operation where
  | fetch
  | analysis
  deriving DecidableEq, Repr

def Operation.name : Operation → String
  | fetch => "fetch_clients"
  | analysis => "analyze"

structure Timing where
  operation : Operation
  target : String
  milliseconds : Nat
  entries : Nat
  ok : Bool
  deriving DecidableEq, Repr

structure PerfReport where
  timings : List Timing
  totalEntriesFetched : Nat
  totalMilliseconds : Nat
  deriving DecidableEq, Repr

namespace PerfReport

def empty : PerfReport := ⟨[], 0, 0⟩

/-- Notes a timing; only fetches count towards the entries fetched. -/
def record (r : PerfReport) (t : Timing) : PerfReport :=
  { timings := r.timings ++ [t]
    totalEntriesFetched := r.totalEntriesFetched +
      (if t.operation = .fetch then t.entries else 0)
    totalMilliseconds := r.totalMilliseconds + t.milliseconds }

def recordAnalysis (r : PerfReport) (entries milliseconds : Nat) : PerfReport :=
  r.record ⟨.analysis, "*", milliseconds, entries, true⟩

end PerfReport

namespace Source

/-- The timing that a fetch notes when it ends; an aborted one notes none. -/
def timing? (s : Source) : Option Timing :=
  match s.outcome with
  | .fetched es => some ⟨.fetch, s.origin.id, s.milliseconds, es.length, true⟩
  | .failed _ => some ⟨.fetch, s.origin.id, s.milliseconds, 0, false⟩
  | .aborted _ _ => none

def stamp (origin : Origin) (e : Entry) : Entry :=
  { e with serverId := origin.id, serverName := origin.name }

end Source

namespace Snapshot

def empty : Snapshot := ⟨[], []⟩

def add (snapshot : Snapshot) (origin : Origin) (outcome : FetchOutcome) : Snapshot :=
  match outcome.failure? with
  | none =>
    { snapshot with entries := snapshot.entries ++ outcome.entries.map (Source.stamp origin) }
  | some message =>
    { snapshot with failures := snapshot.failures ++ [⟨origin.id, origin.name, message⟩] }

end Snapshot

structure Collection where
  outcomes : List (Option FetchOutcome)
  perf : PerfReport

namespace Collection

def start (sources : List Source) : Collection :=
  ⟨sources.map fun _ => none, .empty⟩

def complete (sources : List Source) (c : Collection) (i : Nat) : Collection :=
  match sources[i]? with
  | none => c
  | some s =>
    { outcomes := c.outcomes.set i (some s.outcome)
      perf := match s.timing? with
        | some t => c.perf.record t
        | none => c.perf }

def run (sources : List Source) (order : List Nat) : Collection :=
  order.foldl (complete sources) (start sources)

def snapshot (sources : List Source) (c : Collection) : Snapshot :=
  (sources.zip c.outcomes).foldl (fun snapshot (s, outcome) =>
    match outcome with
    | some o => snapshot.add s.origin o
    | none => snapshot) .empty

end Collection

def collectInOrder (sources : List Source) (order : List Nat) : Snapshot × PerfReport :=
  let c := Collection.run sources order
  (c.snapshot sources, c.perf)

def collect (sources : List Source) : Snapshot × PerfReport :=
  collectInOrder sources (List.range sources.length)

end FleetDrift
