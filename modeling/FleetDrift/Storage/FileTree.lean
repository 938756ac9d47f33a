import FleetDrift.Storage.Disk

/-!
# File trees

Storage as a value: directories and files below a root, with a working directory. Each operation
answers as a file system with a single user would.
-/

namespace FleetDrift

inductive FileContent where
  | bytes (data : List UInt8)
  | panel (database : Panel.Database)
  deriving DecidableEq, Repr

def FileContent.database : FileContent → Except Panel.QueryFault Panel.Database
  | bytes data => Panel.Database.ofBytes data
  | panel database => .ok database

inductive FileNode where
  | directory
  | file (content : FileContent)
  deriving DecidableEq, Repr

def FileNode.kind : FileNode → NodeKind
  | directory => .directory
  | file _ => .file

def FileContent.keepsLog : FileContent → Bool
  | bytes data => Panel.keepsLog data
  | panel _ => false

/-- The nodes below the root by the names on their path. -/
structure FileTree where
  workingDirectory : List String
  nodes : List (List String × FileNode)
  deriving DecidableEq, Repr

namespace FileTree

def node? (t : FileTree) (place : List String) : Option FileNode :=
  if place = [] then some .directory
  else (t.nodes.find? fun n => n.1 = place).map (·.2)

def setNode (place : List String) (node : FileNode) :
    List (List String × FileNode) → List (List String × FileNode)
  | [] => [(place, node)]
  | (p, n) :: rest => if p = place then (p, node) :: rest else (p, n) :: setNode place node rest

def put (t : FileTree) (place : List String) (node : FileNode) : FileTree :=
  { t with nodes := setNode place node t.nodes }

def start (t : FileTree) (path : String) : List String :=
  if Path.isAbsolute path then [] else t.workingDirectory

def maxName : Nat := 255

def maxPath : Nat := 4095

def step (t : FileTree) (place : List String) (name : String) : Except DiskFault (List String) :=
  match t.node? place with
  | none => .error .notFound
  | some (.file _) => .error .notADirectory
  | some .directory =>
    if Path.staysInPlace name then .ok place
    else if name = ".." then .ok place.dropLast
    else if maxName < name.utf8ByteSize then .error .nameTooLong
    else .ok (place ++ [name])

def checkPath (path : String) : Except DiskFault Unit :=
  if path.contains '\x00' then .error .invalidPath
  else if path = "" then .error .notFound
  else if maxPath < path.utf8ByteSize then .error .nameTooLong
  else .ok ()

/-- The place that a path names; nothing has to be there yet. -/
def locate (t : FileTree) (path : String) : Except DiskFault (List String) := do
  checkPath path
  (Path.steps path).foldlM t.step (t.start path)

def find (t : FileTree) (path : String) : Except DiskFault FileNode := do
  match t.node? (← t.locate path) with
  | none => .error .notFound
  | some node => .ok node

def read (t : FileTree) (path : String) : Except DiskFault FileContent := do
  match ← t.find path with
  | .directory => .error .isADirectory
  | .file content => .ok content

/-- The steps before the last one, and the last one. Slashes at the end do not count. -/
def lastStep (path : String) : List String × String :=
  let all := ((Path.steps path).reverse.dropWhile (· = "")).reverse
  (all.dropLast, all.getLastD "")

/-- Makes a directory; a last step that is no name leads to one that is there. -/
def makeDirectory (t : FileTree) (path : String) : Except DiskFault FileTree := do
  checkPath path
  let (before, last) := lastStep path
  let parent ← before.foldlM t.step (t.start path)
  let place ← t.step parent last
  if Path.staysInPlace last || last = ".." || (t.node? place).isSome then .error .alreadyExists
  else .ok (t.put place .directory)

def write (t : FileTree) (path : String) (content : String) : Except DiskFault FileTree := do
  let place ← t.locate path
  match t.node? place.dropLast, t.node? place with
  | _, some .directory => .error .isADirectory
  | none, _ => .error .notFound
  | some (.file _), _ => .error .notADirectory
  | some .directory, _ => .ok (t.put place (.file (.bytes content.toUTF8.toList)))

def leave (t : FileTree) (makes : Bool) (place : List String) (data : List UInt8) : FileTree :=
  if makes then t.put place (.file (.bytes data)) else t

/-- Opens the log of a panel, which counts as empty. A path that is too long has no log. -/
def openLog (t : FileTree) (path : String) (use : Panel.LogUse) : Bool × FileTree :=
  match t.locate (path ++ Panel.logSuffix), t.locate (path ++ Panel.indexSuffix) with
  | .ok log, .ok index =>
    let kind? (place : List String) : Option NodeKind := (t.node? place).map FileNode.kind
    let opening := LogOpening.ofFound use (kind? log) (kind? index)
    (opening.succeeds,
      (t.leave opening.newLog log []).leave opening.newIndex index Panel.emptyIndex)
  | _, _ => (use = .ignored, t)

def readPanel (t : FileTree) (path : String) (use : Panel.LogUse) :
    Except DiskFault (Except Panel.QueryFault Panel.Database) × FileTree :=
  match t.read path with
  | .error fault => (.error fault, t)
  | .ok content =>
    if content.keepsLog then
      let (succeeds, after) := t.openLog path use
      (.ok (if succeeds then content.database else .error .unopened), after)
    else (.ok content.database, t)

def addFile (t : FileTree) (path : String) (content : FileContent) : FileTree :=
  let place := t.start path ++ Path.names path
  let parents := (List.range place.length).map fun n => place.take n
  let t := parents.foldl (fun t p =>
    if (t.node? p).isSome then t else t.put p .directory) t
  t.put place (.file content)

/-- Bytes that no text decoder accepts, in place of a database's own. -/
def opaqueBytes : List UInt8 := [0xff]

def readBytes (t : FileTree) (path : String) : Except DiskFault (List UInt8) :=
  match t.read path with
  | .ok (.bytes data) => .ok data
  | .ok (.panel _) => .ok opaqueBytes
  | .error fault => .error fault

def changedSince (before after : FileTree) : List (List String × FileContent) :=
  after.nodes.filterMap fun (place, node) =>
    match node with
    | .file content => if before.node? place = some node then none else some (place, content)
    | .directory => none

def change (f : FileTree → Except DiskFault FileTree) : StateM FileTree (Except DiskFault Unit) :=
  fun t =>
    match f t with
    | .ok after => (.ok (), after)
    | .error fault => (.error fault, t)

def disk : Disk (StateM FileTree) where
  workingDirectory := do return Path.fromRoot (← get).workingDirectory
  kindOf path := do return ((← get).find path).map FileNode.kind
  read path := do return (← get).readBytes path
  readPanel path use := fun t => t.readPanel path use
  makeDirectory path := change fun t => t.makeDirectory path
  write path content := change fun t => t.write path content

end FileTree

end FleetDrift
