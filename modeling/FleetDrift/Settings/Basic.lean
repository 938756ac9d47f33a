import FleetDrift.Inventory.Backend
import FleetDrift.Number.Notation
import FleetDrift.Settings.Tree
import FleetDrift.Text.Blank
import FleetDrift.Text.Lowercase
import FleetDrift.Text.Utf8

/-!
# Settings

The backends to scan and the directory for reports. They come from a configuration text, over which
variables of the environment are laid.
-/

namespace FleetDrift

structure Settings where
  backends : List Backend
  outputDir : String
  deriving DecidableEq, Repr

namespace Settings

inductive SettingsError where
  | unreadable (path : String)
  | illShaped (path : String)
  | emptyId (path : String)
  | duplicateId (id : String)
  deriving DecidableEq, Repr

def SettingsError.message : SettingsError → String
  | unreadable path => "Failed to read config file: " ++ path
  | illShaped path => "Failed to parse config: " ++ path
  | emptyId path => "backend with path " ++ path ++ " has an empty id"
  | duplicateId id => "duplicate backend id: " ++ id

def defaultOutputDir : String := "reports"

def default : Settings := ⟨[], defaultOutputDir⟩

def Setting.text? : Setting → Option String
  | .text s => some s
  | .integer n => some (Number.intText n)
  | .float x => some x.display
  | .boolean b => some (if b then "true" else "false")
  | _ => none

/-- The fields of a record: of a table by name, of a list by position. -/
def Setting.record? (names : List String) : Setting → Option Fields
  | .table fields => some fields
  | .list items => some (names.zip items)
  | _ => none

/-- A kind is a name, or a table with that name as its only key. -/
def kind? : Setting → Option BackendKind
  | .text s => BackendKind.ofName? s
  | .table [(key, _)] => BackendKind.ofName? key
  | _ => none

def name? : Option Setting → Option (Option String)
  | none => some none
  | some .absent => some none
  | some s => s.text?.map some

def backend? (s : Setting) : Option Backend := do
  let fields ← s.record? ["id", "name", "kind", "path"]
  let id ← (← fields.get? "id").text?
  let name ← name? (fields.get? "name")
  let kind ← kind? (← fields.get? "kind")
  let path ← (← fields.get? "path").text?
  some ⟨id, name, kind, path⟩

def backends? : Option Setting → Option (List Backend)
  | none => some []
  | some (.list items) => items.mapM backend?
  | some _ => none

def outputDir? : Option Setting → Option String
  | none => some defaultOutputDir
  | some s => do
    let fields ← s.record? ["dir"]
    match fields.get? "dir" with
    | none => some defaultOutputDir
    | some dir => dir.text?

def ofFields? (fields : Fields) : Option Settings := do
  some ⟨← backends? (fields.get? "backends"), ← outputDir? (fields.get? "output")⟩

/-- The first backend that has a blank id, or the id of one before it. -/
def checkBackends (seen : List String) : List Backend → Except SettingsError Unit
  | [] => .ok ()
  | b :: rest =>
    if Text.trim b.id = "" then .error (.emptyId b.path)
    else if b.id ∈ seen then .error (.duplicateId b.id)
    else checkBackends (b.id :: seen) rest

def check (s : Settings) : Except SettingsError Settings := do
  checkBackends [] s.backends
  .ok s

def environmentMark : List Char := "clientdiff__".toList

/-- Two underscores separate the steps of a path. -/
def stepsOfUnderscores : List Char → List Char
  | '_' :: '_' :: rest => '.' :: stepsOfUnderscores rest
  | c :: rest => c :: stepsOfUnderscores rest
  | [] => []

def keyOfVariable? (name : String) : Option String :=
  let cs := Text.lowerChars name.toList
  if environmentMark.isPrefixOf cs then
    some (String.ofList (stepsOfUnderscores (cs.drop environmentMark.length)))
  else none

def ofDocument (document : Toml.Table) : Fields :=
  document.foldl (fun fields (key, v) => fields.put key (.ofToml v)) []

def overlayEnvironment (environment : List (String × String)) (fields : Fields) : Fields :=
  environment.foldl (fun fields (name, value) =>
    match keyOfVariable? name with
    | some key => fields.put key (.text value)
    | none => fields) fields

def load (path : String) (content : Option (List UInt8)) (environment : List (String × String)) :
    Except SettingsError Settings :=
  match content.bind fun bytes => Toml.read (Text.decodeLossy (Text.dropByteOrderMark bytes)) with
  | none => .error (.unreadable path)
  | some document =>
    match ofFields? (overlayEnvironment environment (ofDocument document)) with
    | none => .error (.illShaped path)
    | some s => check s

end Settings

end FleetDrift
