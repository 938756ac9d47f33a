import FleetDrift.Inventory.Export
import FleetDrift.Inventory.PanelRow
import FleetDrift.Storage.OpenPanel

/-!
# Fetching the entries of a backend

What a backend's file holds is turned into entries, or into a fault with the messages that explain
it, the outermost first.
-/

namespace FleetDrift

open Json (Value Mismatch Located)

inductive FetchFault where
  | unreadable (path : String) (fault : DiskFault)
  | notUtf8 (path : String)
  | notJson (path : String) (fault : Located)
  | badExport (path : String) (fault : Export.ExportFault)
  | unopened (path : String) (fault : OpenFault)
  | unqueried (path : String) (fault : Panel.QueryFault)
  | badColumn (fault : Panel.ColumnFault)
  deriving DecidableEq, Repr

inductive Cause where
  | text (s : String)
  | malformed (fault : Located)
  | mismatch (m : Mismatch)
  deriving DecidableEq, Repr

def Cause.message : Cause → String
  | text s => s
  | malformed fault => fault.message
  | mismatch m => m.message

def Export.ExportFault.cause : Export.ExportFault → Cause
  | panelFailure message => .text ("export reports failure: " ++ message)
  | notAnExport => .text "expected an inbound array or an \x7b\"obj\": [...]\x7d envelope"
  | mismatch m => .mismatch m

def databaseCauses (message : String) : List Cause :=
  [.text ("error returned from database: " ++ message), .text message]

def OpenFault.causes : OpenFault → List Cause
  | badAddress .zeroCharacter =>
    let message := Panel.AddressFault.zeroCharacter.message
    [.text ("error communicating with database: " ++ message), .text message]
  | badAddress fault => databaseCauses fault.message
  | unreachable => databaseCauses "(code: 14) unable to open database file"
  | unreadable => databaseCauses "(code: 266) disk I/O error"

/-- The messages that explain a fault, outermost first. -/
def FetchFault.causes : FetchFault → List Cause
  | unreadable path fault =>
    [.text ("Failed to read inbound export " ++ path), .text fault.message]
  | notUtf8 path =>
    [.text ("Failed to read inbound export " ++ path), .text "stream did not contain valid UTF-8"]
  | notJson path fault => [.text ("Failed to parse inbound export " ++ path), .malformed fault]
  | badExport path fault => [.text ("Unexpected inbound export " ++ path), fault.cause]
  | unopened path fault => .text ("Failed to open panel database " ++ path) :: fault.causes
  | unqueried path fault =>
    .text ("Failed to read inbounds from " ++ path) :: databaseCauses fault.message
  | badColumn fault => fault.messages.map .text

def decodeText (bytes : List UInt8) : Option String := String.fromUTF8? ⟨bytes.toArray⟩

namespace Backend

def entriesOfDocument (b : Backend) (document : Value) : Except FetchFault (List Entry) := do
  let inbounds ← (Export.inbounds document).mapError (.badExport b.path)
  .ok (Inbound.allEntries b.origin inbounds)

def entriesOfFile (b : Backend) (content : Except DiskFault (List UInt8)) :
    Except FetchFault (List Entry) := do
  let bytes ← content.mapError (.unreadable b.path)
  match decodeText bytes with
  | none => .error (.notUtf8 b.path)
  | some text =>
    let document ← (Value.read text).mapError (.notJson b.path)
    b.entriesOfDocument document

def entriesOfPanel (b : Backend)
    (opened : Except OpenFault (Except Panel.QueryFault Panel.Database)) :
    Except FetchFault (List Entry) := do
  let database ← opened.mapError (.unopened b.path)
  let rows ← (database.bind Panel.Database.inbounds).mapError (.unqueried b.path)
  let inbounds ← (rows.mapM Panel.Row.inbound).mapError .badColumn
  .ok (Inbound.allEntries b.origin inbounds)

def fetch {m : Type → Type} [Monad m] (disk : Disk m) (b : Backend) :
    m (Except FetchFault (List Entry)) := do
  match b.kind with
  | .json => return b.entriesOfFile (← disk.read b.path)
  | .sqlite => return b.entriesOfPanel (← disk.openPanel b.path)

end Backend

end FleetDrift
