import FleetDrift.CommandLine.Run
import Std.Time.Format

/-!
# The executable

Runs a command line on the files, the environment and the clock of the process.
-/

namespace FleetDrift.CommandLine

def diskFaultOf (e : IO.Error) : DiskFault :=
  let numbered (code : UInt32) (text : String) : DiskFault :=
    .other (text ++ " (os error " ++ toString code ++ ")")
  match e with
  | .noFileOrDirectory _ _ _ => .notFound
  | .inappropriateType _ code text =>
    if code = 20 then .notADirectory
    else if code = 21 then .isADirectory
    else numbered code text
  | .alreadyExists _ _ _ => .alreadyExists
  | .permissionDenied _ code text => numbered code text
  | .resourceExhausted _ code text => numbered code text
  | .invalidArgument _ code text => if code = 36 then .nameTooLong else numbered code text
  | .noSuchThing _ code text => numbered code text
  | .otherError code text => numbered code text
  | .resourceBusy code text => numbered code text
  | other => .other (toString other)

/-- An action that the system may refuse. A path with a zero character is refused at once. -/
def attempt {α : Type} (path : String) (action : IO α) : IO (Except DiskFault α) :=
  if path.contains '\x00' then return .error .invalidPath
  else
    try return .ok (← action)
    catch e => return .error (diskFaultOf e)

def readAll (path : String) : IO (Except DiskFault (List UInt8)) :=
  attempt path do
    let handle ← IO.FS.Handle.mk path .read
    return (← handle.readBinToEnd).toList

/-- What is found at a path. A file that may not be read is there all the same. -/
def kindOf (path : String) : IO (Except DiskFault NodeKind) := do
  let open? (path : String) : IO (Except DiskFault Unit) :=
    attempt path do let _ ← IO.FS.Handle.mk path .read
  match ← open? path with
  | .error (.other _) => return .ok .file
  | .error fault => return .error fault
  | .ok () => return .ok (if (← open? (path ++ "/.")).isOk then .directory else .file)

def leave (makes : Bool) (path : String) (data : List UInt8) : IO Bool := do
  unless makes do return true
  return (← attempt path (IO.FS.writeBinFile path ⟨data.toArray⟩)).isOk

def openLog (path : String) (use : Panel.LogUse) : IO Bool := do
  let log := path ++ Panel.logSuffix
  let index := path ++ Panel.indexSuffix
  let opening := LogOpening.ofFound use (← kindOf log).toOption (← kindOf index).toOption
  let hasLog ← leave opening.newLog log []
  let hasIndex ← leave opening.newIndex index Panel.emptyIndex
  return opening.succeeds && hasLog && hasIndex

def readPanel (path : String) (use : Panel.LogUse) :
    IO (Except DiskFault (Except Panel.QueryFault Panel.Database)) := do
  match ← readAll path with
  | .error fault => return .error fault
  | .ok bytes =>
    if Panel.keepsLog bytes && !(← openLog path use) then return .ok (.error .unopened)
    else return .ok (Panel.Database.ofBytes bytes)

def systemDisk : Disk IO where
  workingDirectory := do return (← IO.currentDir).toString
  kindOf := kindOf
  read := readAll
  readPanel := readPanel
  makeDirectory path := attempt path (IO.FS.createDir path)
  write path content := attempt path (IO.FS.writeFile path content)

def systemEnvironment : IO (List (String × String)) := do
  match ← readAll "/proc/self/environ" with
  | .ok bytes => return environmentOfBytes bytes
  | .error _ => return []

def systemSurroundings : IO (Surroundings IO) := do
  let environment ← systemEnvironment
  let name := runNameOfBytes (← IO.getRandomBytes 16).toList
  let now ← Std.Time.PlainDateTime.now
  return {
    disk := systemDisk
    clock := IO.monoMsNow
    environment := environment
    colouring := colouringOf environment (← (← IO.getStdout).isTty)
    stamp := now.format "uuuuMMdd_HHmmss" ++ "_" ++ name
    runName := name }

def execute (args : List String) : IO UInt32 := do
  let ending ← run (← systemSurroundings) args
  IO.print ending.output
  IO.eprint ending.errors
  return UInt32.ofNat ending.exitCode

end FleetDrift.CommandLine

def main (args : List String) : IO UInt32 := FleetDrift.CommandLine.execute args
