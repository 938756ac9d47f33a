import FleetDrift.Panel.Expression

/-!
# Definitions of tables, indexes and views

The parts of `CREATE` statements that decide how rows are stored and in which order they are read.
A table keeps its rows by row number, which a column may be another name for, or by a key.
-/

namespace FleetDrift.Panel

structure Column where
  name : String
  affinity : Affinity
  isRowNumber : Bool
  /-- The cell of a row that was stored before the column was added. -/
  missing : Cell
  formula : Option Expression
  deriving DecidableEq, Repr

structure KeyPart where
  column : String
  descending : Bool
  deriving DecidableEq, Repr

abbrev Key := List KeyPart

inductive Order where
  /-- By row number, which is one more than the greatest, or than the greatest that ever was. -/
  | rowNumber (everGreater : Bool)
  | key (key : Key)
  deriving DecidableEq, Repr

structure TableSchema where
  name : String
  columns : List Column
  order : Order
  indexes : List Key
  deriving DecidableEq, Repr

inductive Constraint where
  | primaryKey (descending : Bool)
  | autoincrement
  | unique
  | initial (c : Cell)
  | computed (e : Expression) (stored : Bool)
  deriving DecidableEq, Repr

def constraintWords : List String :=
  ["CONSTRAINT", "PRIMARY", "NOT", "NULL", "UNIQUE", "CHECK", "DEFAULT", "COLLATE", "REFERENCES",
   "GENERATED", "AS", "ON"]

/-- The value after `DEFAULT`: a word that is no value stands for its own text. -/
def initialCell (ts : List Token) : Cell :=
  let evaluated (e : Expression) : Cell := e.eval fun _ => none
  match ts with
  | .mark '(' :: rest => ((Expression.ofTokens? (takeGroup 0 rest).1).map evaluated).getD .null
  | .mark c :: t :: _ => ((Expression.ofTokens? [.mark c, t]).map evaluated).getD .null
  | t :: _ => (constant? t <|> t.name?.map Cell.text).getD .null
  | [] => .null

def constraintsFrom : Nat → List Token → List Constraint
  | 0, _ => []
  | _ + 1, [] => []
  | fuel + 1, t :: ts =>
    if t = .mark '(' then constraintsFrom fuel (takeGroup 0 ts).2
    else if t.isWord "PRIMARY" then
      .primaryKey (beginsWith ["DESC"] (ts.drop 1)) :: constraintsFrom fuel (ts.drop 1)
    else if t.isWord "AUTOINCREMENT" then .autoincrement :: constraintsFrom fuel ts
    else if t.isWord "UNIQUE" then .unique :: constraintsFrom fuel ts
    else if t.isWord "DEFAULT" then
      let after := if ts.head? = some (.mark '(') then ts else ts.drop 1
      .initial (initialCell ts) :: constraintsFrom fuel after
    else if t.isWord "AS" && ts.head? = some (.mark '(') then
      let (group, rest) := takeGroup 0 (ts.drop 1)
      let e := (Expression.ofTokens? group).getD (.value .null)
      .computed e (beginsWith ["STORED"] rest) :: constraintsFrom fuel rest
    else constraintsFrom fuel ts

def typeText (ts : List Token) : String :=
  String.intercalate " " (ts.filterMap Token.name?)

def isWholeNumberType : List Token → Bool
  | [t] => t.name?.any (sameName "INTEGER")
  | _ => false

structure ColumnDefinition where
  name : String
  type : List Token
  constraints : List Constraint
  deriving DecidableEq, Repr

namespace ColumnDefinition

def ofTokens? (ts : List Token) : Option ColumnDefinition :=
  match ts with
  | t :: rest =>
    t.name?.map fun name =>
      let type := rest.takeWhile fun u => !u.isOneOf constraintWords
      ⟨name, type, constraintsFrom (rest.length + 1) (rest.drop type.length)⟩
  | [] => none

/-- In a strict table the type `ANY` converts nothing. -/
def affinity (strict : Bool) (d : ColumnDefinition) : Affinity :=
  let declared := typeText d.type
  if strict && sameName declared "ANY" then .blob else Affinity.ofType declared

def formula? (d : ColumnDefinition) : Option Expression :=
  d.constraints.findSome? fun
    | .computed e false => some e
    | _ => none

def missing (strict : Bool) (d : ColumnDefinition) : Cell :=
  (d.constraints.findSome? fun
    | .initial c => some ((d.affinity strict).store c)
    | _ => none).getD .null

def keys (d : ColumnDefinition) : List (Bool × Key) :=
  d.constraints.filterMap fun
    | .primaryKey descending => some (true, [⟨d.name, descending⟩])
    | .unique => some (false, [⟨d.name, false⟩])
    | _ => none

/-- The column alone is the primary key, and may be another name for the row number. -/
def isRowNumber (d : ColumnDefinition) : Bool :=
  isWholeNumberType d.type && d.constraints.contains (.primaryKey false)

end ColumnDefinition

def tableConstraintWords : List String :=
  ["CONSTRAINT", "PRIMARY", "UNIQUE", "CHECK", "FOREIGN"]

/-- One column of a key in parentheses; an expression is no column. -/
def keyPart (ts : List Token) : KeyPart :=
  let name := match ts with
    | _ :: .mark _ :: _ => none
    | t :: _ => t.name?
    | [] => none
  ⟨name.getD "", ts.any (·.isWord "DESC")⟩

def keyOfGroup (ts : List Token) : Key := (splitAtMark ',' 0 ts).map keyPart

def tableKey? : List Token → Option (Bool × List Token)
  | [] => none
  | t :: ts =>
    if t.isWord "PRIMARY" then some (true, (takeGroup 0 (ts.drop 2)).1)
    else if t.isWord "UNIQUE" then some (false, (takeGroup 0 (ts.drop 1)).1)
    else if t.isOneOf ["CHECK", "FOREIGN"] then none
    else tableKey? ts

inductive Definition where
  | column (d : ColumnDefinition)
  | key (primary : Bool) (parts : Key) (growing : Bool)
  deriving DecidableEq, Repr

def Definition.ofTokens? (ts : List Token) : Option Definition :=
  if beginsWith tableConstraintWords ts then
    (tableKey? ts).map fun (primary, group) =>
      .key primary (keyOfGroup group) (group.any (·.isWord "AUTOINCREMENT"))
  else (ColumnDefinition.ofTokens? ts).map .column

def loneKey? (definitions : List Definition) : Option String :=
  definitions.findSome? fun
    | .key true [part] _ => some part.column
    | _ => none

structure TableOptions where
  strict : Bool
  withoutRowNumber : Bool
  deriving DecidableEq, Repr

def TableOptions.ofTokens (ts : List Token) : TableOptions :=
  ⟨ts.any (·.isWord "STRICT"), ts.any (·.isWord "WITHOUT")⟩

namespace Definition

def column? : Definition → Option ColumnDefinition
  | .column d => some d
  | .key _ _ _ => none

def keys : Definition → List (Bool × Key)
  | .column d => d.keys
  | .key primary parts _ => [(primary, parts)]

def autoincrement : Definition → Bool
  | .column d => d.constraints.contains .autoincrement
  | .key _ _ growing => growing

end Definition

/-- A table from its definitions. A primary key that is not the row number needs an index, unless
the rows are kept by it. -/
def TableSchema.ofDefinitions (name : String) (definitions : List Definition)
    (options : TableOptions) : TableSchema :=
  let isRowNumber (d : ColumnDefinition) : Bool :=
    !options.withoutRowNumber && (d.isRowNumber ||
      (isWholeNumberType d.type && (loneKey? definitions).any (sameName d.name)))
  let columns := (definitions.filterMap Definition.column?).map fun d =>
    (⟨d.name, d.affinity options.strict, isRowNumber d, d.missing options.strict, d.formula?⟩
      : Column)
  let keys := definitions.flatMap Definition.keys
  let implied := options.withoutRowNumber || columns.any (·.isRowNumber)
  { name := name
    columns := columns
    order :=
      if options.withoutRowNumber then .key (((keys.find? (·.1)).map (·.2)).getD [])
      else .rowNumber (definitions.any Definition.autoincrement)
    indexes := ((keys.filter fun k => !(k.1 && implied)).map (·.2)).reverse }

inductive ViewColumn where
  | all
  | named (name : String) (e : Expression)
  deriving DecidableEq, Repr

structure View where
  name : String
  columns : List ViewColumn
  names : List String
  table? : Option String
  filter : Option Expression
  deriving DecidableEq, Repr

def ViewColumn.ofTokens? (ts : List Token) : Option ViewColumn := do
  if ts = [.mark '*'] then some .all
  else
    let (e, rest) ← Expression.read ts
    let own := match e with
      | .column name => name
      | _ => ""
    match (if beginsWith ["AS"] rest then rest.drop 1 else rest) with
    | [] => some (.named own e)
    | [t] => t.name?.map fun name => .named name e
    | _ => none

def cutAtWord (w : String) : Nat → List Token → List Token × List Token
  | _, [] => ([], [])
  | depth, t :: ts =>
    if t.isWord w ∧ depth = 0 then ([], ts)
    else
      let inner := if t = .mark '(' then depth + 1 else if t = .mark ')' then depth - 1 else depth
      let (before, after) := cutAtWord w inner ts
      (t :: before, after)

def sourceName? : List Token → Option String
  | [t] => t.name?
  | [_, .mark '.', t] => t.name?
  | [t, u] => if u.name?.isSome then t.name? else none
  | [t, as, u] => if as.isWord "AS" && u.name?.isSome then t.name? else none
  | _ => none

def View.ofSelection? (name : String) (names : List String) (ts : List Token) : Option View := do
  let (list, rest) := cutAtWord "FROM" 0 ts
  let (source, condition) := cutAtWord "WHERE" 0 rest
  let columns ← (splitAtMark ',' 0 list).mapM ViewColumn.ofTokens?
  let table? ← if source = [] then some none else (sourceName? source).map some
  let filter ← if condition = [] then some none else (Expression.ofTokens? condition).map some
  some ⟨name, columns, names, table?, filter⟩

inductive Statement where
  | table (schema : TableSchema)
  | index (table : String) (key : Key)
  | view (v : View)
  deriving DecidableEq, Repr

def readName (ts : List Token) : Option (String × List Token) :=
  let ts := if beginsWith ["IF"] ts then ts.drop 3 else ts
  match ts with
  | _ :: .mark '.' :: t :: rest => t.name?.map fun name => (name, rest)
  | t :: rest => t.name?.map fun name => (name, rest)
  | [] => none

def readTable (ts : List Token) : Option Statement := do
  let (name, rest) ← readName ts
  if rest.head? = some (.mark '(') then
    let (group, options) := takeGroup 0 (rest.drop 1)
    let definitions := (splitAtMark ',' 0 group).filterMap Definition.ofTokens?
    some (.table (.ofDefinitions name definitions (.ofTokens options)))
  else none

/-- An index of some rows only is never read in order. -/
def readIndex (ts : List Token) : Option Statement := do
  let (_, rest) ← readName ts
  match rest with
  | _ :: t :: .mark '(' :: rest =>
    let (group, condition) := takeGroup 0 rest
    if condition = [] then t.name?.map fun table => .index table (keyOfGroup group) else none
  | _ => none

def readView (ts : List Token) : Option Statement := do
  let (name, rest) ← readName ts
  let (names, rest) :=
    if rest.head? = some (.mark '(') then
      let (group, rest) := takeGroup 0 (rest.drop 1)
      (group.filterMap Token.name?, rest)
    else ([], rest)
  if beginsWith ["AS"] rest && beginsWith ["SELECT"] (rest.drop 1) then
    (View.ofSelection? name names (rest.drop 2)).map .view
  else none

/-- Reads a `CREATE` statement. What is created for the time of the connection only does not
count. -/
def Statement.ofTokens? : List Token → Option Statement
  | create :: t :: rest =>
    if !create.isWord "CREATE" then none
    else if t.isWord "TABLE" then readTable rest
    else if t.isWord "VIEW" then readView rest
    else if t.isWord "INDEX" then readIndex rest
    else if t.isWord "UNIQUE" then readIndex (rest.drop 1)
    else none
  | _ => none

def statements (sql : String) : List Statement :=
  (splitAtMark ';' 0 (tokens sql)).filterMap Statement.ofTokens?

end FleetDrift.Panel
