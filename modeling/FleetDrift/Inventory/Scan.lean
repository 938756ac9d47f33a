import FleetDrift.Inventory.Collection
import FleetDrift.Inventory.Fetch
import FleetDrift.Report.Encoding

/-!
# Scanning a fleet

A scan fetches every backend, puts together what they gave, and reports on it.
-/

namespace FleetDrift

structure Scan where
  snapshot : Snapshot
  report : Report

inductive ScanFault where
  | noBackends
  deriving DecidableEq, Repr

def ScanFault.message : ScanFault → String
  | noBackends => "no backends configured"

namespace Scan

def ofSnapshot (s : Snapshot) : Scan := ⟨s, .ofEntries s.entries⟩

def toValue (s : Scan) : Json.Value :=
  .object [("snapshot", s.snapshot.toValue), ("report", s.report.toValue)]

variable {m : Type → Type} [Monad m]

def sourceOf (disk : Disk m) (clock : m Nat) (b : Backend) : m Source := do
  let before ← clock
  let result ← b.fetch disk
  let after ← clock
  let outcome : FetchOutcome := match result with
    | .ok entries => .fetched entries
    | .error fault => .failed (fault.causes.map Cause.message)
  return ⟨b.origin, outcome, after - before⟩

def ofBackends (disk : Disk m) (clock : m Nat) (backends : List Backend) :
    m (Except ScanFault (Scan × PerfReport)) := do
  if backends.isEmpty then return .error .noBackends
  let sources ← backends.mapM (sourceOf disk clock)
  let (snapshot, perf) := collect sources
  let before ← clock
  let scan := ofSnapshot snapshot
  let after ← clock
  return .ok (scan, perf.recordAnalysis snapshot.entries.length (after - before))

end Scan

end FleetDrift
