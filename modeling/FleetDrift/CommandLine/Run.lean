import FleetDrift.CommandLine.Options
import FleetDrift.CommandLine.Surroundings
import FleetDrift.Inventory.Scan
import FleetDrift.Render.Terminal
import FleetDrift.Report.Files
import FleetDrift.Settings.Basic

/-!
# Running a command line

A run loads the settings, scans the backends or reads a saved snapshot, shows a summary, and then
either makes a plan or writes reports.
-/

namespace FleetDrift.CommandLine

structure Ending where
  exitCode : Nat
  output : String
  errors : String
  deriving DecidableEq, Repr

def Ending.success (output : String) : Ending := ⟨0, output, ""⟩

def Ending.failure (output message : String) : Ending := ⟨1, output, "Error: " ++ message ++ "\n"⟩

def Ending.ofHalt : Halt → Ending
  | .help => ⟨0, helpText, ""⟩
  | .usageError => ⟨2, "", "error: invalid arguments\n"⟩

def localConfig : String := "clientdiff.toml"

variable {m : Type → Type} [Monad m]

def defaultConfig (s : Surroundings m) : m String := do
  if ← s.disk.exists? localConfig then return localConfig
  else
    match userConfigDirectory? s.environment with
    | some dir => return Path.join (Path.join dir "clientdiff") "config.toml"
    | none => return localConfig

/-- The content of a settings file: of the path itself, or of the path with an extension. -/
def settingsContent (s : Surroundings m) (path : String) : m (Option (List UInt8)) := do
  let found ← if ← s.disk.isKind .file path then pure (some path)
    else pure (Path.withExtension? path "toml")
  match found with
  | none => return none
  | some found => return (← s.disk.read found).toOption

/-- The settings, or the message why there are none. With a saved snapshot a missing default file
does not matter. -/
def loadSettings (s : Surroundings m) (o : Options) : m (Except String Settings) := do
  let path ← match o.config with
    | some path => pure path
    | none => defaultConfig s
  let canDoWithout := o.input.isSome && o.config.isNone
  if canDoWithout && !(← s.disk.exists? path) then return .ok Settings.default
  else
    match Settings.load path (← settingsContent s path) s.environment with
    | .error e => return .error e.message
    | .ok settings =>
      if o.input.isNone && settings.backends.isEmpty then
        return .error ("no backends configured in " ++ path
          ++ " (add [[backends]] or use --input)")
      else return .ok settings

def scanOfFile (s : Surroundings m) (path : String) : m (Except String Scan) := do
  match ← s.disk.read path with
  | .error _ => return .error ("Failed to read snapshot " ++ path)
  | .ok bytes =>
    match decodeText bytes with
    | none => return .error ("Failed to read snapshot " ++ path)
    | some text =>
      match Entry.readAll text with
      | .error _ => return .error ("Failed to parse snapshot " ++ path)
      | .ok entries => return .ok (.ofSnapshot ⟨entries, []⟩)

def scan (s : Surroundings m) (o : Options) (settings : Settings) :
    m (Except String (Scan × PerfReport)) := do
  match o.input with
  | some path => return (← scanOfFile s path).map fun scan => (scan, .empty)
  | none =>
    return (← Scan.ofBackends s.disk s.clock settings.backends).mapError ScanFault.message

def outputPlace (s : Surroundings m) (settings : Settings) : OutputPlace :=
  ⟨Path.join settings.outputDir s.stamp, s.runName⟩

def summaryText (s : Surroundings m) (o : Options) (scan : Scan) (perf : PerfReport) : String :=
  Render.failures s.colouring scan.snapshot.failures
    ++ Render.report s.colouring scan.report
    ++ (if o.perf then Render.perf s.colouring perf else "")

def runPlan (s : Surroundings m) (o : Options) (place : OutputPlace) (report : Report)
    (request : PlanRequest) (shown : String) : m Ending := do
  match report.plan request.identity request.protocol request.source with
  | .error e => return .failure shown e.message
  | .ok outcome =>
    let shown := shown ++ Render.plan s.colouring outcome
    match outcome.plan? with
    | none => return .success shown
    | some plan =>
      let shown := shown ++ plan.toValue.pretty ++ "\n"
      if o.dryRun then return .success shown
      else
        match ← s.disk.writePlan place plan with
        | .error fault => return .failure shown fault.message
        | .ok path => return .success (shown ++ "Plan written to " ++ path ++ "\n")

def formatsOf? (name : String) : Option (List ReportFormat) :=
  if name = "all" then some ReportFormat.all else (ReportFormat.ofName? name).map ([·])

def runReport (s : Surroundings m) (o : Options) (place : OutputPlace) (report : Report)
    (shown : String) : m Ending := do
  if o.dryRun then return .success shown
  else
    match formatsOf? o.format with
    | none => return .failure shown ("Unknown format: " ++ o.format)
    | some formats =>
      match ← s.disk.writeReports place report formats with
      | .error fault => return .failure shown fault.message
      | .ok _ => return .success (shown ++ "Report written to " ++ place.directory ++ "\n")

def runOptions (s : Surroundings m) (o : Options) : m Ending := do
  match ← loadSettings s o with
  | .error message => return .failure "" message
  | .ok settings =>
    match ← scan s o settings with
    | .error message => return .failure "" message
    | .ok (scan, perf) =>
      let shown := summaryText s o scan perf
      let place := outputPlace s settings
      match o.plan with
      | some request => runPlan s o place scan.report request shown
      | none => runReport s o place scan.report shown

def run (s : Surroundings m) (args : List String) : m Ending :=
  match Options.ofArguments args with
  | .error halt => return .ofHalt halt
  | .ok o => runOptions s o

end FleetDrift.CommandLine
