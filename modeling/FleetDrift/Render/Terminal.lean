import FleetDrift.Inventory.Collection
import FleetDrift.Plan.Basic
import FleetDrift.Render.Style
import FleetDrift.Render.Table

/-!
# Summaries on a terminal

What is shown of a report, of failures, of a plan and of timings.
-/

namespace FleetDrift.Render

open Number (Binary64 decimalText intText)

def left (title : String) : ColumnHead := ⟨title, .left⟩

def right (title : String) : ColumnHead := ⟨title, .right⟩

def lines (ls : List String) : String := String.join (ls.map (· ++ "\n"))

def severityLabel (c : Colouring) : Severity → String
  | .high => c.paint .boldRed "high"
  | .medium => c.paint .yellow "medium"

def recommendation (s : SubGroup) : String :=
  match s.ranked.head? with
  | some best => best.serverName ++ " / " ++ best.inboundRemark
  | none => ""

def subGroupRow (c : Colouring) (g : Group) (s : SubGroup) : List String :=
  [severityLabel c g.severity,
   c.paint .bold g.identity.value,
   s.protocol,
   decimalText s.size,
   String.intercalate ", " (s.comparison.conflictTypes.map ConflictType.name),
   c.paint .green (recommendation s)]

def conflictTable (c : Colouring) (r : Report) : String :=
  table
    [left "severity", left "identity", left "protocol", right "copies", left "conflicts",
     left "recommended source"]
    (r.groups.flatMap fun g => g.subGroups.map (subGroupRow c g))

def summaryTable (c : Colouring) (s : Summary) : String :=
  table [left "metric", right "value"]
    [["Entries scanned", decimalText s.totalEntries],
     ["Unidentifiable entries", c.paint .dimmed (decimalText s.unidentifiableEntries)],
     ["Identity groups", decimalText s.totalGroups],
     ["High severity", c.paint .red (decimalText s.high)],
     ["Medium severity", c.paint .yellow (decimalText s.medium)],
     ["Conflicting groups", c.paint .bold (decimalText s.conflictGroups)]]

def report (c : Colouring) (r : Report) : String :=
  lines
    ["",
     c.paint .boldCyan "CLIENTDIFF CONFLICT REPORT",
     "Snapshot: " ++ c.paint .brightYellow r.fingerprint,
     "",
     if r.isClean then c.paint .boldGreen "✓ No conflicts — every copy agrees."
     else conflictTable c r,
     "",
     summaryTable c r.summary,
     ""]

def failures (c : Colouring) (fs : List FetchFailure) : String :=
  if fs.isEmpty then ""
  else
    lines
      ["",
       c.paint .boldRed "UNREACHABLE BACKENDS",
       c.paint .bold (decimalText fs.length)
         ++ " backend(s) were skipped; their copies are missing from this report.",
       table [left "backend", left "error"]
         (fs.map fun f =>
           [c.paint .bold f.serverName ++ " (" ++ f.serverId ++ ")", c.paint .red f.message]),
       ""]

def choiceLabel (c : Colouring) : SourceChoice → String
  | .explicit => c.paint .cyan "explicit"
  | .recommended => c.paint .green "recommended"

def targetRow (c : Colouring) (t : Target) : List String :=
  [t.serverName ++ " (" ++ t.serverId ++ ")",
   intText t.inboundId.toInt,
   t.clientIdentifier,
   c.paint .dimmed t.locator]

def planLines (c : Colouring) : PlanOutcome → List String
  | .alreadyConverged =>
    [c.paint .boldGreen "✓ Nothing to reconcile — already converged."]
  | .missingCredential source =>
    [c.paint .boldRed "✗ Cannot reconcile:" ++ " source " ++ c.paint .yellow source
      ++ " has no credential; refusing to plan."]
  | .ready plan =>
    [c.paint .boldCyan "RECONCILIATION PLAN",
     "Source (" ++ choiceLabel c plan.sourceChoice ++ "): "
       ++ c.paint .bold plan.sourceLocator,
     "Based on snapshot: " ++ c.paint .dimmed plan.basedOn,
     table [left "server", right "inbound", left "identifier", left "locator"]
       (plan.targets.map (targetRow c)),
     "  " ++ c.paint .bold (decimalText plan.targets.length)
       ++ " target(s) will be overwritten with the source's values."]

def plan (c : Colouring) (outcome : PlanOutcome) : String :=
  lines ("" :: planLines c outcome ++ [""])

/-- Seconds with one place from one second on, milliseconds below. -/
def duration (c : Colouring) (milliseconds : Nat) : String :=
  if 1000 ≤ milliseconds then
    let seconds := (Binary64.ofInt milliseconds).div (Binary64.ofInt 1000)
    c.paint .yellow (seconds.tenths ++ "s")
  else if 100 ≤ milliseconds then c.paint .yellow (decimalText milliseconds)
  else c.paint .green (decimalText milliseconds)

def timingRow (c : Colouring) (t : Timing) : List String :=
  [c.paint .dimmed t.operation.name,
   c.paint (if t.ok then .bold else .red) t.target,
   decimalText t.entries,
   duration c t.milliseconds]

def perf (c : Colouring) (r : PerfReport) : String :=
  if r.timings.isEmpty then ""
  else
    lines
      [c.paint .boldCyan "PERFORMANCE",
       table [left "operation", left "backend", right "entries", right "time (ms)"]
         (r.timings.map (timingRow c)),
       "  Total: " ++ c.paint .bold (decimalText r.totalEntriesFetched)
         ++ " entr(ies) fetched  ·  " ++ duration c r.totalMilliseconds ++ " ms elapsed",
       ""]

end FleetDrift.Render
