/-!
# Backends

A backend is a panel whose clients are scanned: a database file or an exported JSON file.
-/

namespace FleetDrift

inductive BackendKind where
  | sqlite
  | json
  deriving DecidableEq, Repr

namespace BackendKind

def name : BackendKind → String
  | sqlite => "sqlite"
  | json => "json"

def ofName? (s : String) : Option BackendKind :=
  if s = "sqlite" then some .sqlite
  else if s = "json" then some .json
  else none

end BackendKind

structure Origin where
  id : String
  name : String
  deriving DecidableEq, Repr

structure Backend where
  id : String
  name : Option String
  kind : BackendKind
  path : String
  deriving DecidableEq, Repr

/-- A backend without a name is named by its id. -/
def Backend.origin (b : Backend) : Origin := ⟨b.id, b.name.getD b.id⟩

end FleetDrift
