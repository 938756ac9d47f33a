import FleetDrift.Inventory.Fetch
import FleetDrift.Proofs.CellOrder
import FleetDrift.Proofs.Correspondence
import FleetDrift.Proofs.WellFormedReading

/-! # The rows of an inbounds table

A query finds the four columns by their names, wherever they stand in the table and whatever else
stands there. It gives the rows by ascending id: in whichever order they are kept, there is one such
order if no two ids are the same.
-/

namespace FleetDrift.Panel

structure Table.HasInbounds (t : Table) : Prop where
  intact : t.fault? = none
  named : ∀ name ∈ inboundColumns,
    (t.schema.columns.find? fun c => sameName c.name name).map (·.name) = some name

namespace Table

variable {t : Table}

/-- The cell that a row has under a name. -/
def cell (t : Table) (row : List Cell) (name : String) : Cell :=
  ((findCell t.schema.columns row name).map (·.2)).getD .null

/-- What is selected from a row. -/
def inboundRow (t : Table) (row : List Cell) : Row :=
  inboundColumns.map fun name => (name, t.cell row name)

def inboundsQuery (t : Table) : Query :=
  ⟨t, inboundColumns.map fun name => (name, .column name), none⟩

theorem select_inboundColumns (h : t.HasInbounds) :
    (Query.ofTable t).select inboundColumns = .ok t.inboundsQuery := by
  have hfound : ∀ name ∈ inboundColumns,
      (Query.ofTable t).columns.find? (fun c => sameName c.1 name) = some (name, .column name) := by
    intro name hname
    obtain ⟨c, hc, he⟩ := Option.map_eq_some_iff.mp (h.named name hname)
    rw [Query.ofTable, List.find?_map, Function.comp_def, hc, Option.map_some, he]
  rw [Query.select, Json.bind_eq_ok]
  refine ⟨inboundColumns.map fun name => (name, .column name), mapM_eq_ok_iff.mpr ?_, rfl⟩
  rw [List.forall₂_map_right_iff, List.forall₂_same]
  intro name hname
  rw [hfound name hname]

theorem scanFor_perm (t : Table) (column : String) : (t.scanFor column).Perm t.rows := by
  have hsort : ∀ key rows, (sortRows t.schema.columns key rows).Perm rows :=
    fun _ rows => List.mergeSort_perm rows _
  simp only [scanFor]
  split
  · split_ifs
    · exact List.reverse_perm t.rows
    · exact .refl t.rows
  · split_ifs
    · exact (hsort _ _).trans (List.reverse_perm t.rows)
    · exact hsort _ _
  · exact .refl t.rows

theorem rows_inboundsQuery (t : Table) : t.inboundsQuery.rows =
    ((t.scanFor "id").map t.inboundRow).mergeSort fun a b => a.firstCell.le b.firstCell := by
  simp only [Query.rows, inboundsQuery, List.filter_true]
  rfl

/-- Where ids ascend, no two places have one id, so rows that stand before each other are one. -/
theorem eq_of_ascending {rows : List Row} {a b : Row}
    (hids : rows.Pairwise fun a b => b.firstCell.le a.firstCell = false) (ha : a ∈ rows)
    (hb : b ∈ rows) (hab : a.firstCell.le b.firstCell = true)
    (hba : b.firstCell.le a.firstCell = true) : a = b := by
  induction hids with
  | nil => cases ha
  | cons hfirst _ ih =>
    rcases List.mem_cons.mp ha with rfl | harest
    · rcases List.mem_cons.mp hb with rfl | hbrest
      · rfl
      · rw [hfirst b hbrest] at hba
        cases hba
    · rcases List.mem_cons.mp hb with rfl | hbrest
      · rw [hfirst a harest] at hab
        cases hab
      · exact ih harest hbrest

/-- The rows of the query are those of the table in the one order in which the ids ascend. -/
theorem rows_inboundsQuery_of_perm {rows : List Row} (h : (t.rows.map t.inboundRow).Perm rows)
    (hids : rows.Pairwise fun a b => b.firstCell.le a.firstCell = false) :
    t.inboundsQuery.rows = rows := by
  let le : Row → Row → Bool := fun a b => a.firstCell.le b.firstCell
  have hscan := ((t.scanFor_perm "id").map t.inboundRow).trans h
  have hperm : (((t.scanFor "id").map t.inboundRow).mergeSort le).Perm rows :=
    (List.mergeSort_perm _ le).trans hscan
  have htrans : ∀ a b c, le a b = true → le b c = true → le a c = true := by
    intro a b c
    exact Cell.le_trans
  have htotal : ∀ a b, (le a b || le b a) = true := by
    intro a b
    exact Bool.or_eq_true_iff.mpr (Cell.le_total a.firstCell b.firstCell)
  have hsorted : (((t.scanFor "id").map t.inboundRow).mergeSort le).Pairwise (le · ·) :=
    List.pairwise_mergeSort htrans htotal _
  have hascending : rows.Pairwise (le · ·) := by
    refine hids.imp fun {a b} hba => ?_
    rcases Cell.le_total a.firstCell b.firstCell with hab | hle
    · exact hab
    · rw [hba] at hle
      cases hle
  rw [rows_inboundsQuery]
  refine hperm.eq_of_pairwise ?_ hsorted hascending
  intro a b ha hb hab hba
  exact eq_of_ascending hids (hperm.mem_iff.mp ha) hb hab hba

end Table

structure InboundCells where
  id : Int64
  remark : Cell
  protocol : Cell
  settings : Cell
  deriving DecidableEq, Repr

def Cell.asText (c : Cell) (column : String) : Except ColumnFault (Option String) :=
  Row.text? [(column, c)] column

theorem Row.cell_singleton (name : String) (c : Cell) : Row.cell [(name, c)] name = .ok c := by
  simp [Row.cell]

theorem Row.text?_eq_asText {row : Row} {name : String} {c : Cell} (h : row.cell name = .ok c) :
    row.text? name = c.asText name := by
  rw [Cell.asText, Row.text?, Row.text?, h, Row.cell_singleton]

namespace InboundCells

def row (r : InboundCells) : Row :=
  [("id", .integer r.id), ("remark", r.remark), ("protocol", r.protocol), ("settings", r.settings)]

def list (r : InboundCells) : List Cell := r.row.map (·.2)

def stored (r : InboundCells) : InboundCells :=
  ⟨r.id, Affinity.text.store r.remark, Affinity.text.store r.protocol,
    Affinity.text.store r.settings⟩

theorem firstCell_row (r : InboundCells) : r.row.firstCell = .integer r.id := rfl

def inbound (r : InboundCells) : Except ColumnFault Inbound := r.row.inbound

theorem inbound_eq (r : InboundCells) : r.inbound = (do
    let settings ← r.settings.asText "settings"
    let remark ← r.remark.asText "remark"
    let protocol ← r.protocol.asText "protocol"
    .ok ⟨r.id, remark.getD "", protocol.getD "", (settings.map .string).getD .null⟩) := by
  have hid : r.row.integer "id" = .ok r.id := rfl
  have hremark : r.row.cell "remark" = .ok r.remark := by simp [Row.cell, row]
  have hprotocol : r.row.cell "protocol" = .ok r.protocol := by simp [Row.cell, row]
  have hsettings : r.row.cell "settings" = .ok r.settings := by simp [Row.cell, row]
  rw [inbound, Row.inbound, Row.text?_eq_asText hsettings, hid, Row.text?_eq_asText hremark,
    Row.text?_eq_asText hprotocol]
  rfl

end InboundCells

namespace Database

variable {db : Database} {rows : List InboundCells}

/-- The inbounds of a database are these, in whichever order it keeps them. -/
def Holds (db : Database) (rows : List InboundCells) : Prop :=
  ∃ t, db.table? "inbounds" = some t ∧ t.HasInbounds ∧
    (t.rows.map t.inboundRow).Perm (rows.map InboundCells.row)

theorem Holds.inbounds (h : db.Holds rows) (hids : rows.Pairwise (·.id < ·.id)) :
    db.inbounds = .ok (rows.map InboundCells.row) := by
  obtain ⟨t, htable, ht, hperm⟩ := h
  have hquery : db.query "inbounds" = .ok (.ofTable t) := by rw [query, htable]
  have hrows : t.inboundsQuery.rows = rows.map InboundCells.row := by
    refine Table.rows_inboundsQuery_of_perm hperm (List.pairwise_map.mpr (hids.imp fun hlt => ?_))
    rw [InboundCells.firstCell_row, InboundCells.firstCell_row, Bool.eq_false_iff, ne_eq,
      Cell.integer_le_integer_iff]
    exact Int64.not_le.mpr hlt
  rw [Database.inbounds, Json.bind_eq_ok]
  refine ⟨_, hquery, Json.bind_eq_ok.mpr ⟨_, Table.select_inboundColumns ht, ?_⟩⟩
  rw [Table.inboundsQuery, ht.intact, ← hrows]
  rfl

theorem Holds.entries (h : db.Holds rows) (hids : rows.Pairwise (·.id < ·.id)) (b : Backend) :
    b.entriesOfPanel (.ok (.ok db)) = (do
      let inbounds ← (rows.mapM InboundCells.inbound).mapError .badColumn
      .ok (Inbound.allEntries b.origin inbounds)) := by
  have hdecode : (rows.map InboundCells.row).mapM Row.inbound =
      rows.mapM InboundCells.inbound := List.mapM_map
  have hopened : b.entriesOfPanel (.ok (.ok db)) = (do
      let rows ← db.inbounds.mapError (.unqueried b.path)
      let inbounds ← (rows.mapM Row.inbound).mapError .badColumn
      .ok (Inbound.allEntries b.origin inbounds)) := rfl
  rw [hopened, h.inbounds hids, ← hdecode]
  rfl

def inboundsDefinition : String :=
  "CREATE TABLE inbounds (id INTEGER PRIMARY KEY, remark TEXT, protocol TEXT, settings TEXT)"

def ofRows (rows : List InboundCells) : Database :=
  rows.foldl (fun db r => db.insert "inbounds" r.row) (ofDefinition inboundsDefinition)

def textColumn (name : String) : Column := ⟨name, .text, false, .null, none⟩

def inboundsTable (kept : List (List Cell)) : Table :=
  let columns := ⟨"id", .integer, true, .null, none⟩ ::
    ["remark", "protocol", "settings"].map textColumn
  ⟨⟨"inbounds", columns, .rowNumber false, []⟩, kept, none⟩

theorem ofDefinition_inboundsDefinition :
    ofDefinition inboundsDefinition = ⟨[inboundsTable []], []⟩ := by
  decide +kernel

theorem insert_row (kept : List (List Cell)) (r : InboundCells) :
    insert ⟨[inboundsTable kept], []⟩ "inbounds" r.row =
      ⟨[inboundsTable (kept ++ [r.stored.list])], []⟩ := by
  have hrow : Table.rowOf (inboundsTable kept).schema kept r.row = r.stored.list := by
    simp [Table.rowOf, inboundsTable, textColumn, computed, sameName, Affinity.store,
      InboundCells.row, InboundCells.list, InboundCells.stored]
  simpa [insert, Table.insert, inboundsTable, sameName] using hrow

theorem ofRows_eq (rows : List InboundCells) :
    ofRows rows = ⟨[inboundsTable (rows.map fun r => r.stored.list)], []⟩ := by
  induction rows using List.reverseRecOn with
  | nil => rw [ofRows, List.foldl_nil, ofDefinition_inboundsDefinition, List.map_nil]
  | append_singleton rows r ih =>
    rw [ofRows] at ih
    rw [ofRows, List.foldl_concat, ih, insert_row, List.map_append]
    rfl

theorem hasInbounds_inboundsTable (kept : List (List Cell)) : (inboundsTable kept).HasInbounds :=
  ⟨rfl, by simp [inboundColumns, inboundsTable, textColumn, sameName]⟩

theorem inboundRow_list (kept : List (List Cell)) (r : InboundCells) :
    (inboundsTable kept).inboundRow r.list = r.row := by
  simp [Table.inboundRow, Table.cell, findCell, List.findIdx?_cons, inboundColumns, inboundsTable,
    textColumn, sameName, InboundCells.list, InboundCells.row]

theorem holds_ofRows (rows : List InboundCells) :
    (ofRows rows).Holds (rows.map InboundCells.stored) := by
  have htable : (ofRows rows).table? "inbounds" =
      some (inboundsTable (rows.map fun r => r.stored.list)) := by
    simp [ofRows_eq, table?, inboundsTable, sameName]
  refine ⟨_, htable, hasInbounds_inboundsTable _, .of_eq ?_⟩
  rw [inboundsTable, List.map_map, List.map_map]
  exact List.map_congr_left fun r _ => inboundRow_list _ r.stored

end Database

end FleetDrift.Panel
