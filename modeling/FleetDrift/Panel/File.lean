import FleetDrift.Panel.Database
import FleetDrift.Panel.Record

/-!
# Panel database files

A database file is a sequence of pages of one size. A table is a tree of pages. Where rows are kept
by row number, the leaf pages hold them; where they are kept by a key, every page holds some. A row
too long for its page goes on in a chain of further pages. The tree at the first page lists the
definitions of the database.
-/

namespace FleetDrift.Panel

structure File where
  data : Array UInt8
  pageSize : Nat
  usable : Nat
  pageCount : Nat
  encoding : TextEncoding

namespace File

def firstBytes : List UInt8 := "SQLite format 3\x00".toUTF8.toList

def pageShares : List Nat := [64, 32, 32]

def pageSizes : List Nat := [512, 1024, 2048, 4096, 8192, 16384, 32768, 65536]

def statedPages (data : Array UInt8) : Nat :=
  if bigEndian data 24 4 = bigEndian data 92 4 then bigEndian data 28 4 else 0

def encodingOf (data : Array UInt8) : TextEncoding :=
  match byteAt data 59 % 4 with
  | 2 => .utf16 false
  | 3 => .utf16 true
  | _ => .utf8

def latestFormat : Nat := 4

/-- Reads the head of a file. What is missing of the last page counts as zeros. -/
def ofBytes (bytes : List UInt8) : Except QueryFault File :=
  let data := bytes.toArray
  let size := 256 * byteAt data 16 + 65536 * byteAt data 17
  let usable := size - byteAt data 20
  let present := (data.size + size - 1) / size
  let stated := statedPages data
  let shares := (List.range 3).map fun i => byteAt data (21 + i)
  if !firstBytes.isPrefixOf bytes || 2 < byteAt data 19 || shares ≠ pageShares
      || !pageSizes.contains size then .error .notADatabase
  else if present < stated then .error .malformed
  else if usable < 480 then .error .notADatabase
  else if latestFormat < byteAt data 47 then .error .unsupportedFormat
  else
    let padding := List.replicate (present * size - data.size) 0
    .ok ⟨data ++ padding.toArray, size, usable, if stated = 0 then present else stated,
      encodingOf data⟩

def pageStart (f : File) (page : Nat) : Nat := (page - 1) * f.pageSize

def hasPage (f : File) (page : Nat) : Bool := 1 ≤ page && page ≤ f.pageCount

def chainBytes (f : File) : Nat → Nat → Nat → Except QueryFault (Array UInt8)
  | 0, _, _ => .error .malformed
  | fuel + 1, page, count =>
    if count = 0 then .ok #[]
    else if !f.hasPage page then .error .malformed
    else do
      let start := f.pageStart page
      let here := min count (f.usable - 4)
      let rest ← f.chainBytes fuel (bigEndian f.data start 4) (count - here)
      .ok (f.data.extract (start + 4) (start + 4 + here) ++ rest)

inductive Tree where
  | byRowNumber
  | byKey
  deriving DecidableEq, Repr

def Tree.leafMark : Tree → Nat
  | byRowNumber => 0x0d
  | byKey => 0x0a

def Tree.branchMark : Tree → Nat
  | byRowNumber => 0x05
  | byKey => 0x02

def longestLocal (f : File) : Tree → Nat
  | .byRowNumber => f.usable - 35
  | .byKey => (f.usable - 12) * 64 / 255 - 23

def localBytes (f : File) (tree : Tree) (length : Nat) : Nat :=
  let least := (f.usable - 12) * 32 / 255 - 23
  let fitting := least + (length - least) % (f.usable - 4)
  if length ≤ f.longestLocal tree then length
  else if fitting ≤ f.longestLocal tree then fitting
  else least

def record (f : File) (tree : Tree) (i length : Nat) : Except QueryFault (List Cell) := do
  let count := f.localBytes tree length
  let rest ← f.chainBytes (length - count + 1) (bigEndian f.data (i + count) 4) (length - count)
  match cellsOfRecord? f.encoding (f.data.extract i (i + count) ++ rest) with
  | some cells => .ok cells
  | none => .error .malformed

def row (f : File) (tree : Tree) (i : Nat) : Except QueryFault (Int × List Cell) := do
  let (length, i) := varint f.data i
  match tree with
  | .byRowNumber =>
    let (number, i) := varint f.data i
    .ok ((Int64.ofNat number).toInt, ← f.record tree i length)
  | .byKey => .ok (0, ← f.record tree i length)

def maxDepth : Nat := 20

/-- The rows below a page. Only the first page of a tree may be without rows. -/
def rowsBelow (f : File) (tree : Tree) :
    Nat → Bool → Nat → Except QueryFault (List (Int × List Cell))
  | 0, _, _ => .error .malformed
  | depth + 1, isFirst, page =>
    let start := f.pageStart page
    let head := if page = 1 then 100 else start
    let count := bigEndian f.data (head + 3) 2
    let places (i : Nat) : List Nat := (List.range count).map fun k =>
      start + bigEndian f.data (i + 2 * k) 2 % f.pageSize
    if !f.hasPage page || (f.pageSize - 8) / 6 < count || (count = 0 && !isFirst) then
      .error .malformed
    else if byteAt f.data head = tree.leafMark then (places (head + 8)).mapM (f.row tree)
    else if byteAt f.data head = tree.branchMark then do
      let parts ← (places (head + 12)).mapM fun i => do
        let below ← f.rowsBelow tree depth false (bigEndian f.data i 4)
        match tree with
        | .byRowNumber => .ok below
        | .byKey => .ok (below ++ [← f.row tree (i + 4)])
      .ok (parts.flatten ++ (← f.rowsBelow tree depth false (bigEndian f.data (head + 8) 4)))
    else .error .malformed

def rows (f : File) (tree : Tree) (first : Nat) : Except QueryFault (List (Int × List Cell)) :=
  f.rowsBelow tree maxDepth true first

/-- The places of the stored columns in the order of a record: a key comes first. -/
def storedPlaces (schema : TableSchema) : List Nat :=
  let stored := (schema.columns.zipIdx.filter fun (c, _) => c.formula.isNone).map (·.2)
  match schema.order with
  | .rowNumber _ => stored
  | .key key =>
    let first := (key.filterMap fun part =>
      schema.columns.findIdx? fun c => sameName c.name part.column).eraseDups
    first ++ stored.filter fun i => !first.contains i

/-- The row of a record. The row number stands outside the record, and a column of floats may keep
whole numbers as such. -/
def rowOfRecord (schema : TableSchema) (number : Int) (cells : List Cell) : List Cell :=
  let places := storedPlaces schema
  computed schema.columns (schema.columns.zipIdx.map fun (c, i) =>
    let cell := match places.idxOf? i with
      | some k => cells.getD k c.missing
      | none => .null
    if c.isRowNumber && cell = .null then .integer (Int64.ofInt number)
    else if c.affinity = .real then Affinity.real.store cell
    else cell)

def table (f : File) (schema : TableSchema) (first : Nat) : Table :=
  let tree := match schema.order with
    | .rowNumber _ => Tree.byRowNumber
    | .key _ => Tree.byKey
  match f.rows tree first with
  | .ok rows => ⟨schema, rows.map fun (number, cells) => rowOfRecord schema number cells, none⟩
  | .error fault => ⟨schema, [], some fault⟩

structure Line where
  name : String
  first : Nat
  sql : String
  deriving DecidableEq, Repr

def lineText (cell : Cell) : String := Text.decodeLossy cell.textBytes

def Line.ofCells? (f : File) (cells : List Cell) : Except QueryFault (Option Line) :=
  let cell (i : Nat) : Cell := cells.getD i .null
  let name := if cell 1 = .null then "?" else lineText (cell 1)
  let sql := lineText (cell 4)
  let isStatement := ((sql.take 2).toString.map Char.toLower) = "cr"
  match cell 3 with
  | .null => .error (.malformedSchema name "")
  | .integer first =>
    if first.toInt < 0 ∨ f.pageCount < first.toInt.toNat then
      .error (.malformedSchema name " - invalid rootpage")
    else if isStatement then .ok (some ⟨name, first.toInt.toNat, sql⟩)
    else if cell 1 = .null ∨ sql ≠ "" then .error (.malformedSchema name "")
    else .ok none
  | _ => .error (.malformedSchema name " - invalid rootpage")

def follow (f : File) (db : Database) (line : Line) : Database :=
  match Statement.ofTokens? (tokens line.sql) with
  | none => db
  | some (.table schema) => { db with tables := db.tables ++ [f.table schema line.first] }
  | some statement => db.create statement

end File

/-- Reads a database file. An empty file is a database without tables. -/
def Database.ofBytes (bytes : List UInt8) : Except QueryFault Database := do
  if bytes = [] then .ok .empty
  else
    let f ← File.ofBytes bytes
    let lines ← (← f.rows .byRowNumber 1).mapM fun line => File.Line.ofCells? f line.2
    .ok ((lines.filterMap id).foldl f.follow .empty)

end FleetDrift.Panel
