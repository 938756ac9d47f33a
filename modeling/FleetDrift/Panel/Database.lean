import FleetDrift.Panel.Schema

/-!
# Panel databases

A panel keeps its inbounds in a table with the columns `id`, `remark`, `protocol` and `settings`, or
shows them in a view with these columns. Its rows are read in the order of their ids.
-/

namespace FleetDrift.Panel

inductive QueryFault where
  | notADatabase
  | unopened
  | unsupportedFormat
  | malformed
  | malformedSchema (name : String) (detail : String)
  | noTable (name : String)
  | noColumn (name : String)
  deriving DecidableEq, Repr

def QueryFault.message : QueryFault → String
  | notADatabase => "(code: 26) file is not a database"
  | unopened => "(code: 14) unable to open database file"
  | unsupportedFormat => "(code: 1) unsupported file format"
  | malformed => "(code: 11) database disk image is malformed"
  | malformedSchema name detail => "(code: 11) malformed database schema (" ++ name ++ ")" ++ detail
  | noTable name => "(code: 1) no such table: " ++ name
  | noColumn name => "(code: 1) no such column: " ++ name

/-- A table with its rows in the order in which they are kept. A fault that stops the reading of the
rows does no harm as long as nobody asks for them. -/
structure Table where
  schema : TableSchema
  rows : List (List Cell)
  fault? : Option QueryFault
  deriving DecidableEq, Repr

structure Database where
  tables : List Table
  views : List View
  deriving DecidableEq, Repr

def Database.empty : Database := ⟨[], []⟩

def findCell (columns : List Column) (row : List Cell) (name : String) :
    Option (Affinity × Cell) :=
  match columns.findIdx? fun c => sameName c.name name with
  | some i => (columns[i]?).map fun c => (c.affinity, row.getD i .null)
  | none => none

def computeOnce (columns : List Column) (row : List Cell) : List Cell :=
  (columns.zip row).map fun (c, cell) =>
    match c.formula with
    | none => cell
    | some e => c.affinity.store (e.eval (findCell columns row))

/-- Computed columns may be computed from each other, but not in a circle. -/
def computed (columns : List Column) (row : List Cell) : List Cell :=
  if columns.all (·.formula.isNone) then row
  else columns.foldl (fun row _ => computeOnce columns row) row

/-- Rows in the order of a key, rows with equal keys in the order given. -/
def rowLe (columns : List Column) : Key → List Cell → List Cell → Bool
  | [], _, _ => true
  | part :: key, a, b =>
    let cell (row : List Cell) : Cell := ((findCell columns row part.column).map (·.2)).getD .null
    let (x, y) := if part.descending then (cell b, cell a) else (cell a, cell b)
    x.le y && (!y.le x || rowLe columns key a b)

def sortRows (columns : List Column) (key : Key) (rows : List (List Cell)) : List (List Cell) :=
  rows.mergeSort (rowLe columns key)

namespace Table

def nextRowNumber (everGreater : Bool) (numbers : List Cell) : Int64 :=
  let whole (c : Cell) : Option Int :=
    match c with
    | .integer n => some n.toInt
    | _ => none
  let greatest := (numbers.filterMap whole).max?.getD 0
  Int64.ofInt ((if everGreater then max greatest 0 else greatest) + 1)

/-- A row of named values. A column that is not named is null, and a null row number is replaced by
the next free one. -/
def rowOf (schema : TableSchema) (rows : List (List Cell)) (values : List (String × Cell)) :
    List Cell :=
  let everGreater := match schema.order with
    | .rowNumber everGreater => everGreater
    | .key _ => false
  let row := schema.columns.zipIdx.map fun (c, i) =>
    let cell := ((values.find? fun v => sameName v.1 c.name).map (·.2)).getD .null
    let stored := c.affinity.store cell
    if c.isRowNumber && stored = .null then
      .integer (nextRowNumber everGreater (rows.map fun row => row.getD i .null))
    else stored
  computed schema.columns row

def insert (t : Table) (values : List (String × Cell)) : Table :=
  let rows := t.rows ++ [rowOf t.schema t.rows values]
  { t with rows := match t.schema.order with
      | .key key => sortRows t.schema.columns key rows
      | .rowNumber _ => rows }

end Table

namespace Database

/-- Follows a statement. A second table of one name is not made. -/
def create (db : Database) : Statement → Database
  | .table schema => { db with tables := db.tables ++ [⟨schema, [], none⟩] }
  | .view v => { db with views := db.views ++ [v] }
  | .index table key =>
    { db with tables := db.tables.map fun t =>
        if sameName t.schema.name table then
          { t with schema := { t.schema with indexes := key :: t.schema.indexes } }
        else t }

def ofDefinition (sql : String) : Database := (statements sql).foldl create empty

def insert (db : Database) (table : String) (values : List (String × Cell)) : Database :=
  { db with tables := db.tables.map fun t =>
      if sameName t.schema.name table then t.insert values else t }

end Database

def Key.beginsWith (key : Key) (column : String) : Bool :=
  key.head?.any fun part => sameName part.column column

def Key.isBackwards (key : Key) : Bool := key.head?.any (·.descending)

def Key.reversed (key : Key) : Key := key.map fun part => { part with descending := !part.descending }

/-- The rows in the order in which they are read when they are wanted by one column: that of a key
which begins with this column, from whichever end gives it ascending, or as they are kept. -/
def Table.scanFor (t : Table) (column : String) : List (List Cell) :=
  let ownKey := match t.schema.order with
    | .key key => if key.beginsWith column then some key else none
    | .rowNumber _ => none
  match ownKey, t.schema.indexes.find? (Key.beginsWith · column) with
  | some key, _ => if key.isBackwards then t.rows.reverse else t.rows
  | none, some key =>
    if key.isBackwards then sortRows t.schema.columns key.reversed t.rows.reverse
    else sortRows t.schema.columns key t.rows
  | none, none => t.rows

abbrev Row := List (String × Cell)

def inboundColumns : List String := ["id", "remark", "protocol", "settings"]

def Row.firstCell (row : Row) : Cell := (row.head?.map (·.2)).getD .null

structure Query where
  table : Table
  columns : List (String × Expression)
  filter : Option Expression
  deriving DecidableEq, Repr

namespace Query

def ofTable (t : Table) : Query :=
  ⟨t, t.schema.columns.map fun c => (c.name, .column c.name), none⟩

def singleRow : Table := ⟨⟨"", [], .rowNumber false, []⟩, [[]], none⟩

def ofView (t : Table) (v : View) : Query :=
  let own := v.columns.flatMap fun
    | .all => t.schema.columns.map fun c => (c.name, Expression.column c.name)
    | .named name e => [(name, e)]
  let columns := if v.names = [] then own else v.names.zip (own.map (·.2))
  ⟨t, columns, v.filter⟩

def unknownColumn? (q : Query) : Option String :=
  let used := q.columns.flatMap (·.2.columns) ++ (q.filter.map Expression.columns).getD []
  used.find? fun name => (findCell q.table.schema.columns [] name).isNone

def select (q : Query) (names : List String) : Except QueryFault Query := do
  let columns ← names.mapM fun name =>
    match q.columns.find? fun c => sameName c.1 name with
    | some c => .ok c
    | none => .error (.noColumn name)
  .ok { q with columns := columns }

def rows (q : Query) : List Row :=
  let scanned := match q.columns with
    | (_, .column name) :: _ => q.table.scanFor name
    | _ => q.table.rows
  let find := findCell q.table.schema.columns
  let kept := scanned.filter fun row =>
    match q.filter with
    | none => true
    | some e => (e.eval (find row)).truth? = some true
  let results : List Row := kept.map fun row =>
    q.columns.map fun (name, e) => (name, e.eval (find row))
  results.mergeSort fun a b => a.firstCell.le b.firstCell

end Query

namespace Database

def table? (db : Database) (name : String) : Option Table :=
  db.tables.find? fun t => sameName t.schema.name name

def query (db : Database) (name : String) : Except QueryFault Query :=
  match db.table? name, db.views.find? fun v => sameName v.name name with
  | some t, _ => .ok (.ofTable t)
  | none, none => .error (.noTable name)
  | none, some v => do
    let table ← match v.table? with
      | none => .ok Query.singleRow
      | some source =>
        match db.table? source with
        | some t => .ok t
        | none => .error (.noTable ("main." ++ source))
    let q := Query.ofView table v
    match q.unknownColumn? with
    | some column => .error (.noColumn column)
    | none => .ok q

def inbounds (db : Database) : Except QueryFault (List Row) := do
  let q ← (← db.query "inbounds").select inboundColumns
  match q.table.fault? with
  | some fault => .error fault
  | none => .ok q.rows

end Database

end FleetDrift.Panel
