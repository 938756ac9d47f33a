import FleetDrift.Panel.Log
import FleetDrift.Storage.Path

/-!
# File storage

What a scan needs of the storage it runs on, and the ways in which storage can refuse.
-/

namespace FleetDrift

inductive DiskFault where
  | notFound
  | notADirectory
  | isADirectory
  | alreadyExists
  | nameTooLong
  | invalidPath
  | other (text : String)
  deriving DecidableEq, Repr

def DiskFault.message : DiskFault → String
  | notFound => "No such file or directory (os error 2)"
  | notADirectory => "Not a directory (os error 20)"
  | isADirectory => "Is a directory (os error 21)"
  | alreadyExists => "File exists (os error 17)"
  | nameTooLong => "File name too long (os error 36)"
  | invalidPath => "file name contained an unexpected NUL byte"
  | other text => text

inductive NodeKind where
  | file
  | directory
  deriving DecidableEq, Repr

structure Disk (m : Type → Type) where
  workingDirectory : m String
  kindOf : String → m (Except DiskFault NodeKind)
  read : String → m (Except DiskFault (List UInt8))
  /-- The database that a file holds. Reading it may leave files beside it. -/
  readPanel : String → Panel.LogUse → m (Except DiskFault (Except Panel.QueryFault Panel.Database))
  makeDirectory : String → m (Except DiskFault Unit)
  write : String → String → m (Except DiskFault Unit)

/-- What becomes of the log of a panel and of its index: whether the panel can be read with them,
and which of the two files is made. -/
structure LogOpening where
  succeeds : Bool
  newLog : Bool
  newIndex : Bool
  deriving DecidableEq, Repr

/-- Opens the log of a panel, by what is found in the places of the log and of its index. The index
is made anew unless it is a directory. -/
def LogOpening.ofFound (use : Panel.LogUse) (log index : Option NodeKind) : LogOpening :=
  match use with
  | .ignored => ⟨true, false, false⟩
  | .refused => ⟨false, false, false⟩
  | .indexGiven =>
    if log = some .directory then ⟨false, false, false⟩ else ⟨index.isSome, log.isNone, false⟩
  | .opened =>
    if log = some .directory then ⟨false, false, false⟩
    else ⟨true, log.isNone, index ≠ some .directory⟩

namespace Disk

variable {m : Type → Type} [Monad m]

def exists? (disk : Disk m) (path : String) : m Bool := do
  return (← disk.kindOf path).isOk

def isKind (disk : Disk m) (kind : NodeKind) (path : String) : m Bool := do
  match ← disk.kindOf path with
  | .ok found => return found = kind
  | .error _ => return false

/-- A directory that could not be made does no harm if it is there. -/
def settle (disk : Disk m) (path : String) (result : Except DiskFault Unit) :
    m (Except DiskFault Unit) := do
  match result with
  | .ok () => return .ok ()
  | .error fault =>
    if ← disk.isKind .directory path then return .ok () else return .error fault

/-- Makes the directory at the first path; when the place for it is missing, those at the further
paths are made before it is tried once more. -/
def makeWithin (disk : Disk m) (path : String) : List String → m (Except DiskFault Unit)
  | [] => do disk.settle path (← disk.makeDirectory path)
  | outer :: rest => do
    match ← disk.makeDirectory path with
    | .error .notFound =>
      match ← disk.makeWithin outer rest with
      | .error fault => return .error fault
      | .ok () => disk.settle path (← disk.makeDirectory path)
    | result => disk.settle path result

def makeDirectories (disk : Disk m) (path : String) : m (Except DiskFault Unit) :=
  if path = "" then return .ok () else disk.makeWithin path (Path.parents path)

end Disk

end FleetDrift
