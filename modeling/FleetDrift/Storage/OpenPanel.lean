import FleetDrift.Panel.Address
import FleetDrift.Storage.Disk

/-!
# Opening panel databases

The path of a database is followed name by name before the file is looked at: `..` takes back the
name before it, whether or not that name leads to anything.
-/

namespace FleetDrift

inductive OpenFault where
  | badAddress (fault : Panel.AddressFault)
  | unreachable
  | unreadable
  deriving DecidableEq, Repr

namespace Disk

variable {m : Type → Type} [Monad m]

/-- The names from the root to where the steps lead. A name may be missing, but none may stand below
a file. -/
def follow (disk : Disk m) (place : List String) :
    List String → m (Except OpenFault (List String))
  | [] => return .ok place
  | step :: steps =>
    if Path.staysInPlace step then disk.follow place steps
    else if step = ".." then disk.follow place.dropLast steps
    else do
      let next := place ++ [step]
      match ← disk.kindOf (Path.fromRoot next) with
      | .ok _ => disk.follow next steps
      | .error .notFound => disk.follow next steps
      | .error _ => return .error .unreachable

def openFile (disk : Disk m) (path : String) (use : Panel.LogUse) :
    m (Except OpenFault (Except Panel.QueryFault Panel.Database)) := do
  let start ← if Path.isAbsolute path then pure [] else
    pure (Path.names (← disk.workingDirectory))
  match ← disk.follow start (Path.steps path) with
  | .error fault => return .error fault
  | .ok place =>
    if place = [] then return .error .unreachable
    else
      match ← disk.readPanel (Path.fromRoot place) use with
      | .ok database => return .ok database
      | .error .isADirectory => return .error .unreadable
      | .error _ => return .error .unreachable

def openPanel (disk : Disk m) (address : String) :
    m (Except OpenFault (Except Panel.QueryFault Panel.Database)) := do
  match Panel.Address.ofText address with
  | .error fault => return .error (.badAddress fault)
  | .ok .new => return .ok (.ok .empty)
  | .ok (.file path use) => disk.openFile path use

end Disk

end FleetDrift
