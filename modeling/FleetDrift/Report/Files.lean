import FleetDrift.Plan.Encoding
import FleetDrift.Render.Page
import FleetDrift.Report.Encoding
import FleetDrift.Storage.Disk

/-!
# Report files

The formats in which a report is written, and the names of the files that hold reports and plans.
-/

namespace FleetDrift

inductive ReportFormat where
  | json
  | html
  deriving DecidableEq, Repr

namespace ReportFormat

def all : List ReportFormat := [.json, .html]

def extension : ReportFormat → String
  | json => "json"
  | html => "html"

def ofName? (s : String) : Option ReportFormat := all.find? fun f => f.extension = s

def content (f : ReportFormat) (r : Report) : String :=
  match f with
  | json => r.toValue.pretty
  | html => Render.page r

end ReportFormat

structure OutputPlace where
  directory : String
  name : String
  deriving DecidableEq, Repr

def OutputPlace.path (place : OutputPlace) (extension : String) : String :=
  Path.join place.directory (place.name ++ "." ++ extension)

variable {m : Type → Type} [Monad m]

def Disk.writeFile (disk : Disk m) (place : OutputPlace) (extension content : String) :
    m (Except DiskFault String) := do
  match ← disk.makeDirectories place.directory with
  | .error fault => return .error fault
  | .ok () =>
    let path := place.path extension
    match ← disk.write path content with
    | .error fault => return .error fault
    | .ok () => return .ok path

def Disk.writeReport (disk : Disk m) (place : OutputPlace) (r : Report) (f : ReportFormat) :
    m (Except DiskFault String) :=
  disk.writeFile place f.extension (f.content r)

def Disk.writePlan (disk : Disk m) (place : OutputPlace) (p : Plan) :
    m (Except DiskFault String) :=
  disk.writeFile place "plan.json" p.toValue.pretty

/-- Writes a report in several formats, up to the first that is refused. -/
def Disk.writeReports (disk : Disk m) (place : OutputPlace) (r : Report) :
    List ReportFormat → m (Except DiskFault (List String))
  | [] => return .ok []
  | f :: rest => do
    match ← disk.writeReport place r f with
    | .error fault => return .error fault
    | .ok path =>
      match ← disk.writeReports place r rest with
      | .error fault => return .error fault
      | .ok paths => return .ok (path :: paths)

end FleetDrift
