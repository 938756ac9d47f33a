/-!
# Command-line options

Options are long or short; short ones may be run together, and a value may be attached or follow as
an argument of its own. Arguments that are no options are refused, and so is an option given twice.
-/

namespace FleetDrift.CommandLine

inductive ValueOption where
  | config
  | input
  | format
  | plan
  | protocol
  | source
  deriving DecidableEq, Repr

inductive FlagOption where
  | dryRun
  | perf
  | verbose
  | quiet
  deriving DecidableEq, Repr

inductive OptionName where
  | value (o : ValueOption)
  | flag (o : FlagOption)
  | help
  deriving DecidableEq, Repr

structure OptionHelp where
  option : OptionName
  letter : Option Char
  long : String
  valueName : Option String
  description : String

def optionTable : List OptionHelp :=
  [⟨.value .config, some 'c', "config", some "CONFIG",
     "Config file (default: ./clientdiff.toml, then the user config dir)"⟩,
   ⟨.value .input, none, "input", some "SNAPSHOT.json",
     "Analyse a JSON array of client entries instead of fetching backends"⟩,
   ⟨.value .format, some 'f', "format", some "FORMAT", "[default: all]"⟩,
   ⟨.flag .dryRun, none, "dry-run", none, "Print the summary only; write nothing"⟩,
   ⟨.flag .perf, none, "perf", none, "Print per-backend fetch timings"⟩,
   ⟨.value .plan, none, "plan", some "IDENTITY",
     "Build a reconciliation plan for this identity (email or identifier)"⟩,
   ⟨.value .protocol, none, "protocol", some "PROTO", ""⟩,
   ⟨.value .source, none, "source", some "LOCATOR",
     "Locator of the copy to use as source (default: the recommended one)"⟩,
   ⟨.flag .verbose, some 'v', "verbose", none, ""⟩,
   ⟨.flag .quiet, some 'q', "quiet", none, ""⟩,
   ⟨.help, some 'h', "help", none, "Print help"⟩]

def OptionName.ofLong? (name : String) : Option OptionName :=
  (optionTable.find? fun o => o.long = name).map (·.option)

def OptionName.ofLetter? (c : Char) : Option OptionName :=
  (optionTable.find? fun o => o.letter = some c).map (·.option)

def OptionHelp.usage (o : OptionHelp) : String :=
  "--" ++ o.long ++ (match o.valueName with
    | some name => " <" ++ name ++ ">"
    | none => "")

/-- The column at which descriptions begin lies two blanks after the longest form. -/
def OptionHelp.line (longest : Nat) (o : OptionHelp) : String :=
  let letter := match o.letter with
    | some c => "  -" ++ String.singleton c ++ ", "
    | none => "      "
  let pad := String.ofList (List.replicate (longest + 2 - o.usage.length) ' ')
  letter ++ o.usage ++ pad ++ o.description ++ "\n"

def helpText : String :=
  let longest := (optionTable.map fun o => o.usage.length).foldl max 0
  "clientdiff — find client drift across a proxy fleet and plan the fix.\n\n"
    ++ "Usage: clientdiff [OPTIONS]\n\nOptions:\n"
    ++ String.join (optionTable.map (OptionHelp.line longest))

structure Given where
  values : List (ValueOption × String)
  flags : List FlagOption
  deriving DecidableEq, Repr

def Given.value? (g : Given) (o : ValueOption) : Option String :=
  (g.values.find? fun v => v.1 = o).map (·.2)

def Given.has (g : Given) (o : FlagOption) : Bool := o ∈ g.flags

inductive Halt where
  | usageError
  | help
  deriving DecidableEq, Repr

def acceptsValue (o : ValueOption) (value : String) : Bool :=
  match o with
  | .config => value ≠ ""
  | .input => value ≠ ""
  | _ => true

def Given.addValue (g : Given) (o : ValueOption) (value : String) : Except Halt Given :=
  if (g.value? o).isSome || !acceptsValue o value then .error .usageError
  else .ok { g with values := g.values ++ [(o, value)] }

def Given.addFlag (g : Given) (o : FlagOption) : Except Halt Given :=
  if g.has o then .error .usageError else .ok { g with flags := g.flags ++ [o] }

/-- An argument that begins with a dash and is more than that cannot be a value. -/
def looksLikeOption (arg : List Char) : Bool :=
  match arg with
  | '-' :: _ :: _ => true
  | _ => false

def addLetters (g : Given) : List Char → Except Halt (Given × Option ValueOption)
  | [] => .ok (g, none)
  | c :: cs =>
    match OptionName.ofLetter? c with
    | none => .error .usageError
    | some .help => .error .help
    | some (.flag o) => do addLetters (← g.addFlag o) cs
    | some (.value o) =>
      match cs with
      | [] => .ok (g, some o)
      | '=' :: value => do .ok (← g.addValue o (String.ofList value), none)
      | value => do .ok (← g.addValue o (String.ofList value), none)

def addLong (g : Given) (cs : List Char) : Except Halt (Given × Option ValueOption) :=
  let name := cs.takeWhile (· ≠ '=')
  match OptionName.ofLong? (String.ofList name), cs.drop name.length with
  | some .help, [] => .error .help
  | some (.flag o), [] => do .ok (← g.addFlag o, none)
  | some (.value o), [] => .ok (g, some o)
  | some (.value o), _ :: value => do .ok (← g.addValue o (String.ofList value), none)
  | _, _ => .error .usageError

/-- Works off the arguments; `waiting` is the option that lacks its value. -/
def addArguments (g : Given) : Option ValueOption → List String → Except Halt Given
  | none, [] => .ok g
  | some _, [] => .error .usageError
  | some o, arg :: args =>
    if looksLikeOption arg.toList then .error .usageError
    else do addArguments (← g.addValue o arg) none args
  | none, arg :: args =>
    match arg.toList with
    | ['-', '-'] => if args.isEmpty then .ok g else .error .usageError
    | '-' :: '-' :: cs => do
      let (g, waiting) ← addLong g cs
      addArguments g waiting args
    | '-' :: c :: cs => do
      let (g, waiting) ← addLetters g (c :: cs)
      addArguments g waiting args
    | _ => .error .usageError

structure PlanRequest where
  identity : String
  protocol : String
  source : Option String
  deriving DecidableEq, Repr

structure Options where
  config : Option String
  input : Option String
  format : String
  dryRun : Bool
  perf : Bool
  plan : Option PlanRequest
  deriving DecidableEq, Repr

/-- An identity and a protocol are given together or not at all, a source only with them, and output
is not asked to be both more and less. -/
def Options.ofGiven (g : Given) : Except Halt Options :=
  if g.has .verbose && g.has .quiet then .error .usageError
  else
    let options (plan : Option PlanRequest) : Options :=
      { config := g.value? .config
        input := g.value? .input
        format := (g.value? .format).getD "all"
        dryRun := g.has .dryRun
        perf := g.has .perf
        plan := plan }
    match g.value? .plan, g.value? .protocol, g.value? .source with
    | none, none, none => .ok (options none)
    | some identity, some protocol, source => .ok (options (some ⟨identity, protocol, source⟩))
    | _, _, _ => .error .usageError

def Options.ofArguments (args : List String) : Except Halt Options := do
  Options.ofGiven (← addArguments ⟨[], []⟩ none args)

end FleetDrift.CommandLine
