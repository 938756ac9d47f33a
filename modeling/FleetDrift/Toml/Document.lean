import FleetDrift.Toml.Literal

/-!
# TOML documents

A document is a list of headers and of keys with values. Each statement extends a tree of tables,
which remembers how a table came about, because a table may be defined only once.
-/

namespace FleetDrift.Toml

/-- A table comes about by its own header, by the header of a table below it, by a key of several
parts, or by a value in braces, to which nothing can be added. -/
inductive Origin where
  | header
  | implied
  | dotted
  | inline
  deriving DecidableEq, Repr

inductive Node where
  | value (v : Value)
  | array (items : List Node)
  | table (origin : Origin) (fields : List (String × Node))
  | tables (items : List (List (String × Node)))

abbrev Nodes := List (String × Node)

def Nodes.get? (fields : Nodes) (key : String) : Option Node :=
  (fields.find? fun f => f.1 = key).map (·.2)

def Nodes.set (key : String) (node : Node) : Nodes → Nodes
  | [] => [(key, node)]
  | (k, n) :: rest => if k = key then (k, node) :: rest else (k, n) :: Nodes.set key node rest

mutual

def Node.toValue : Node → Value
  | .value v => v
  | .array items => .array (itemsToValues items)
  | .table _ fields => .table (fieldsToValues fields)
  | .tables items => .array (tablesToValues items)

def itemsToValues : List Node → List Value
  | [] => []
  | node :: rest => node.toValue :: itemsToValues rest

def fieldsToValues : List (String × Node) → List (String × Value)
  | [] => []
  | (key, node) :: rest => (key, node.toValue) :: fieldsToValues rest

def tablesToValues : List (List (String × Node)) → List Value
  | [] => []
  | fields :: rest => .table (fieldsToValues fields) :: tablesToValues rest

end

/-- Adds a value under a key of several parts. The table that takes it has to be made for keys like
this one. A table on the way to that one may also be implied by a header, and of a list of tables
the last one is taken. -/
def insertDotted (node : Node) : List String → Nodes → Option Nodes
  | [], _ => none
  | [key], fields =>
    match fields.get? key with
    | none => some (fields.set key node)
    | some _ => none
  | key :: next :: keys, fields =>
    match fields.get? key with
    | none => do some (fields.set key (.table .dotted (← insertDotted node (next :: keys) [])))
    | some (.table origin inner) =>
      if origin = .dotted ∨ (origin = .implied ∧ keys ≠ []) then do
        some (fields.set key (.table origin (← insertDotted node (next :: keys) inner)))
      else none
    | some (.tables items) =>
      match items.getLast? with
      | none => none
      | some last =>
        if keys = [] then none
        else do
          let last ← insertDotted node (next :: keys) last
          some (fields.set key (.tables (items.dropLast ++ [last])))
    | some _ => none

/-- Applies a change to the table that a path leads to. Absent tables on the way are implied, and of
a list of tables the last one is taken. -/
def changeAt (change : Nodes → Option Nodes) : List String → Nodes → Option Nodes
  | [], fields => change fields
  | key :: keys, fields =>
    match fields.get? key with
    | none => do some (fields.set key (.table .implied (← changeAt change keys [])))
    | some (.table origin inner) =>
      if origin = .inline then none
      else do some (fields.set key (.table origin (← changeAt change keys inner)))
    | some (.tables items) =>
      match items.getLast? with
      | none => none
      | some last => do
        some (fields.set key (.tables (items.dropLast ++ [← changeAt change keys last])))
    | some _ => none

/-- Opens the table of a header: a new one, or one that was only implied so far. -/
def openTable (key : String) (fields : Nodes) : Option Nodes :=
  match fields.get? key with
  | none => some (fields.set key (.table .header []))
  | some (.table .implied inner) => some (fields.set key (.table .header inner))
  | some _ => none

def openElement (key : String) (fields : Nodes) : Option Nodes :=
  match fields.get? key with
  | none => some (fields.set key (.tables [[]]))
  | some (.tables items) => some (fields.set key (.tables (items ++ [[]])))
  | some _ => none

def readItems (value : Reader Node) : Nat → List Char → Option (List Node × List Char)
  | 0, _ => none
  | fuel + 1, cs =>
    match skipAllLines cs with
    | ']' :: rest => some ([], rest)
    | cs => do
      let (node, rest) ← value cs
      match skipAllLines rest with
      | ']' :: rest => some ([node], rest)
      | ',' :: rest => do
        let (nodes, rest) ← readItems value fuel rest
        some (node :: nodes, rest)
      | _ => none

def readPairs (value : Reader Node) : Nat → Nodes → List Char → Option (Nodes × List Char)
  | 0, _, _ => none
  | fuel + 1, fields, cs =>
    match skipAllLines cs with
    | '\x7d' :: rest => some (fields, rest)
    | cs => do
      let (key, rest) ← readKey cs
      let (node, rest) ← value (skipAllLines (← expect '=' (skipAllLines rest)))
      let fields ← insertDotted node key fields
      match skipAllLines rest with
      | '\x7d' :: rest => some (fields, rest)
      | ',' :: rest => readPairs value fuel fields rest
      | _ => none

mutual

def Node.close : Node → Node
  | .value v => .value v
  | .array items => .array items
  | .table _ fields => .table .inline (closeAll fields)
  | .tables items => .tables items

def closeAll : List (String × Node) → List (String × Node)
  | [] => []
  | (key, node) :: rest => (key, node.close) :: closeAll rest

end

def readValue : Nat → Reader Node
  | depth, cs =>
    match cs with
    | '[' :: rest =>
      match depth with
      | 0 => none
      | inner + 1 => do
        let (nodes, rest) ← readItems (readValue inner) (cs.length + 1) rest
        some (.array nodes, rest)
    | '\x7b' :: rest =>
      match depth with
      | 0 => none
      | inner + 1 =>
        (readPairs (readValue inner) (cs.length + 1) [] rest).map fun (fields, rest) =>
          ((Node.table .inline fields).close, rest)
    | c :: _ =>
      if c = '"' ∨ c = '\'' then (readString cs).map fun (s, rest) => (.value (.string s), rest)
      else (readLiteralValue cs).map fun (v, rest) => (.value v, rest)
    | [] => none

structure State where
  root : Nodes
  current : List String

def readHeaderKey (cs : List Char) : Option (List String × List Char) := do
  let (key, rest) ← readKey cs
  some (key, ← expect ']' rest)

def readStatement (s : State) (cs : List Char) : Option (State × List Char) :=
  match cs with
  | '[' :: '[' :: rest => do
    let (key, rest) ← readHeaderKey rest
    let rest ← expect ']' rest
    let root ← changeAt (openElement (key.getLast?.getD "")) key.dropLast s.root
    some (⟨root, key⟩, rest)
  | '[' :: rest => do
    let (key, rest) ← readHeaderKey rest
    let root ← changeAt (openTable (key.getLast?.getD "")) key.dropLast s.root
    some (⟨root, key⟩, rest)
  | _ => do
    let (key, rest) ← readKey cs
    let (node, rest) ← readValue maxDepth (skipBlanks (← expect '=' rest))
    let root ← changeAt (insertDotted node key) s.current s.root
    some (⟨root, s.current⟩, rest)

def readStatements : Nat → State → List Char → Option State
  | 0, _, _ => none
  | fuel + 1, s, cs =>
    match skipAllLines cs with
    | [] => some s
    | cs => do
      let (s, rest) ← readStatement s cs
      readStatements fuel s (← readLineEnd rest)

def read (text : String) : Option Table := do
  let cs := match text.toList with
    | '\ufeff' :: rest => rest
    | cs => cs
  let s ← readStatements (cs.length + 1) ⟨[], []⟩ cs
  some (fieldsToValues s.root)

end FleetDrift.Toml
