import FleetDrift.Toml.Document

/-!
# Setting trees

Settings from a file and from the environment are laid over one another in a tree. A place in the
tree is named by a path such as `output.dir` or `backends[0].id`.
-/

namespace FleetDrift.Settings

open FleetDrift.Number (Binary64)

inductive Setting where
  | absent
  | text (s : String)
  | integer (n : Int)
  | float (x : Binary64)
  | boolean (b : Bool)
  | list (items : List Setting)
  | table (fields : List (String × Setting))
  deriving Repr

instance : Inhabited Setting := ⟨.absent⟩

abbrev Fields := List (String × Setting)

def Fields.get? (fields : Fields) (key : String) : Option Setting :=
  (fields.find? fun f => f.1 = key).map (·.2)

def Fields.set (key : String) (s : Setting) : Fields → Fields
  | [] => [(key, s)]
  | (k, t) :: rest => if k = key then (k, s) :: rest else (k, t) :: Fields.set key s rest

mutual

def Setting.ofToml : Toml.Value → Setting
  | .string s => .text s
  | .integer n => .integer n
  | .float x => .float x
  | .boolean b => .boolean b
  | .datetime s => .text s
  | .array items => .list (listOfToml items)
  | .table fields => .table (fieldsOfToml fields)

def listOfToml : List Toml.Value → List Setting
  | [] => []
  | v :: rest => Setting.ofToml v :: listOfToml rest

def fieldsOfToml : List (String × Toml.Value) → List (String × Setting)
  | [] => []
  | (key, v) :: rest => (key, Setting.ofToml v) :: fieldsOfToml rest

end

inductive Step where
  | key (name : String)
  | index (i : Int)
  deriving DecidableEq, Repr

def isNameChar (c : Char) : Bool := c.isAlphanum || c = '_' || c = '-'

/-- A position between brackets, with blanks around it. A negative one counts from the end. -/
def readIndex (cs : List Char) : Option (Int × List Char) :=
  let cs := Toml.skipBlanks cs
  let (negative, cs) := match cs with
    | '-' :: rest => (true, rest)
    | cs => (false, cs)
  let ds := cs.takeWhile Char.isDigit
  let n : Int := Number.digitsValue ds
  if ds.isEmpty ∨ 0x8000000000000000 ≤ n then none
  else match Toml.skipBlanks (cs.drop ds.length) with
    | ']' :: rest => some (if negative then -n else n, rest)
    | _ => none

def readSteps : Nat → List Char → Option (List Step)
  | 0, _ => none
  | fuel + 1, cs =>
    match cs with
    | [] => some []
    | '.' :: rest =>
      let name := rest.takeWhile isNameChar
      if name.isEmpty then none
      else do
        let steps ← readSteps fuel (rest.drop name.length)
        some (.key (String.ofList name) :: steps)
    | '[' :: rest => do
      let (i, rest) ← readIndex rest
      some (.index i :: (← readSteps fuel rest))
    | _ => none

/-- The path that a key spells; a key of another form names one place at the top. -/
def pathOfKey (key : String) : String × List Step :=
  let cs := key.toList
  let root := cs.takeWhile isNameChar
  match root, readSteps (cs.length + 1) (cs.drop root.length) with
  | _ :: _, some steps => (String.ofList root, steps)
  | _, _ => (key, [])

def Setting.toFields : Setting → Fields
  | .table fields => fields
  | _ => []

def Setting.toItems : Setting → List Setting
  | .list items => items
  | _ => []

/-- Brings a position into a list: the list is lengthened at its end, or in front for a position
before its beginning. -/
def makeRoom (items : List Setting) (i : Int) : List Setting × Nat :=
  if 0 ≤ i then
    (items ++ List.replicate (i.toNat + 1 - items.length) .absent, i.toNat)
  else
    let back := (-i).toNat
    if back ≤ items.length then (items, items.length - back)
    else (List.replicate (back - items.length) .absent ++ items, 0)

def Setting.changeAt (change : Setting → Setting) : List Step → Setting → Setting
  | [], s => change s
  | .key name :: steps, s =>
    let fields := s.toFields
    .table (fields.set name (changeAt change steps ((fields.get? name).getD .absent)))
  | .index i :: steps, s =>
    let (items, at_) := makeRoom s.toItems i
    .list (items.set at_ (changeAt change steps (items.getD at_ .absent)))

mutual

/-- Lays a setting over another one: tables are merged, everything else is replaced. -/
def Setting.overlay : Setting → Setting → Setting
  | .table fields, under => .table (overlayFields fields under.toFields)
  | s, _ => s

def overlayFields : List (String × Setting) → Fields → Fields
  | [], under => under
  | (key, s) :: rest, under =>
    overlayFields rest (under.set key (s.overlay ((under.get? key).getD .absent)))

end

def Fields.put (fields : Fields) (key : String) (s : Setting) : Fields :=
  let (root, steps) := pathOfKey key
  (Setting.changeAt s.overlay (.key root :: steps) (.table fields)).toFields

end FleetDrift.Settings
