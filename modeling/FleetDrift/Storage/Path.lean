/-!
# Paths

A path is a text of names between slashes. An empty name and `.` stay in place, and `..` leads to
the directory above.
-/

namespace FleetDrift.Path

def isAbsolute (path : String) : Bool := path.startsWith "/"

/-- A path below another one; an absolute path stands for itself. -/
def join (base path : String) : String :=
  if isAbsolute path then path
  else if base = "" ∨ base.endsWith "/" then base ++ path
  else base ++ "/" ++ path

def steps (path : String) : List String := (path.toList.splitOn '/').map String.ofList

def staysInPlace (step : String) : Bool := step = "" || step = "."

def names (path : String) : List String := (steps path).filter fun s => !staysInPlace s

def fromRoot (names : List String) : String := "/" ++ String.intercalate "/" names

def parents (path : String) : List String :=
  let all := names path
  let start := if isAbsolute path then "/" else ""
  (List.range (all.length - 1)).reverse.map fun n =>
    start ++ String.intercalate "/" (all.take (n + 1))

/-- Drops the steps at the end that stay in place; the path is given from its end. -/
def dropIdleEnd : List Char → List Char
  | '/' :: cs => dropIdleEnd cs
  | '.' :: '/' :: cs => dropIdleEnd cs
  | cs => cs

/-- The path with an extension after its last name, unless it ends in no name. -/
def withExtension? (path extension : String) : Option String :=
  let kept := String.ofList (dropIdleEnd path.toList.reverse).reverse
  match (steps kept).getLast? with
  | none => none
  | some last =>
    if staysInPlace last || last = ".." then none else some (kept ++ "." ++ extension)

end FleetDrift.Path
