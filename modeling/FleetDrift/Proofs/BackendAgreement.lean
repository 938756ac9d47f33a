import FleetDrift.Inventory.Fetch
import FleetDrift.Proofs.PanelRows
import FleetDrift.Proofs.SavedSnapshots
import FleetDrift.Storage.FileTree

/-! # Panels and exports with the same rows

A panel database and an export give the same entries for the same rows, whatever the settings hold,
as long as no remark and no protocol is null. A null is an empty text to the database, but no text
to the export, which is then refused as a whole.
-/

namespace FleetDrift

open Json (Value Mismatch)

structure InboundRow where
  id : Int64
  remark : Option String
  protocol : Option String
  settings : Option String
  deriving DecidableEq, Repr

namespace InboundRow

def textCell (s : Option String) : Panel.Cell := (s.map .text).getD .null

def cells (r : InboundRow) : Panel.InboundCells :=
  ⟨r.id, textCell r.remark, textCell r.protocol, textCell r.settings⟩

def textValue (s : Option String) : Value := (s.map .string).getD .null

def fields (r : InboundRow) : Json.Fields :=
  [("id", .ofInt64 r.id), ("protocol", textValue r.protocol), ("remark", textValue r.remark),
    ("settings", textValue r.settings)]

def exported (r : InboundRow) : Value := .object r.fields

def inbound (r : InboundRow) : Inbound :=
  ⟨r.id, r.remark.getD "", r.protocol.getD "", textValue r.settings⟩

def hasNames (r : InboundRow) : Bool := r.remark.isSome && r.protocol.isSome

theorem asText_textCell (s : Option String) (column : String) :
    (textCell s).asText column = .ok s := by
  rw [Panel.Cell.asText, Panel.Row.text?, Panel.Row.cell_singleton]
  cases s <;> rfl

theorem inbound_cells (r : InboundRow) : r.cells.inbound = .ok r.inbound := by
  rw [Panel.InboundCells.inbound_eq, cells, asText_textCell, asText_textCell, asText_textCell]
  rfl

theorem stored_cells (r : InboundRow) : r.cells.stored = r.cells := by
  have hstore : ∀ s : Option String, Panel.Affinity.text.store (textCell s) = textCell s := by
    rintro (_ | s) <;> rfl
  rw [Panel.InboundCells.stored, cells, hstore, hstore, hstore]

def nullText : Mismatch := .invalidType .null "a string"

theorem int64Field_ofInt64 (n : Int64) : Inbound.int64Field (.ofInt64 n) = .ok n := by
  simp only [Inbound.int64Field, Value.ofInt64, Json.Numeral.int64?_toInt]

theorem textField_textValue (s : Option String) :
    Inbound.textField (textValue s) = if s.isSome then .ok (s.getD "") else .error nullText := by
  cases s <;> rfl

theorem ofValue?_exported (r : InboundRow) :
    Inbound.ofValue? r.exported = if r.hasNames then .ok r.inbound else .error nullText := by
  have hid : Inbound.optional (fun v => (Inbound.int64Field v).map some) none
      (r.fields.get? "id") = .ok (some r.id) :=
    congrArg (Except.map some) (int64Field_ofInt64 r.id)
  have hprotocol : Inbound.optional Inbound.textField "" (r.fields.get? "protocol") =
      if r.protocol.isSome then .ok (r.protocol.getD "") else .error nullText :=
    textField_textValue r.protocol
  have hremark : Inbound.optional Inbound.textField "" (r.fields.get? "remark") =
      if r.remark.isSome then .ok (r.remark.getD "") else .error nullText :=
    textField_textValue r.remark
  rw [exported, Inbound.ofValue?, Inbound.ofFields, hid, hprotocol, hremark, hasNames]
  cases r.remark.isSome <;> cases r.protocol.isSome <;> rfl

end InboundRow

open InboundRow

theorem toList_loop (bytes : ByteArray) (i : Nat) (done : List UInt8) :
    ByteArray.toList.loop bytes i done = done.reverse ++ bytes.data.toList.drop i := by
  induction i, done using ByteArray.toList.loop.induct bytes with
  | case1 i done hlt ih =>
    have hdrop : bytes.data.toList.drop i = bytes.data[i] :: bytes.data.toList.drop (i + 1) :=
      List.drop_eq_getElem_cons (by simpa using hlt)
    have hget : bytes.get! i = bytes.data[i] := getElem!_pos bytes.data i hlt
    rw [ByteArray.toList.loop, if_pos hlt, ih, hget, hdrop, List.reverse_cons, List.append_assoc,
      List.singleton_append]
  | case2 i done hend =>
    have hdrop : bytes.data.toList.drop i = [] := List.drop_of_length_le (by simpa using hend)
    rw [ByteArray.toList.loop, if_neg hend, hdrop, List.append_nil]

theorem decodeText_toUTF8 (s : String) : decodeText s.toUTF8.toList = some s := by
  have hbytes : (⟨s.toUTF8.toList.toArray⟩ : ByteArray) = s.toUTF8 := by
    rw [ByteArray.toList, toList_loop]
    rfl
  rw [decodeText, hbytes, String.fromUTF8?, String.toUTF8_eq_toByteArray, dif_pos s.isValidUTF8]
  rfl

def Exports (content : List UInt8) (rows : List InboundRow) : Prop :=
  ∃ text, decodeText content = some text ∧ Value.read text = .ok (.array (rows.map exported))

theorem holds_cells (rows : List InboundRow) :
    (Panel.Database.ofRows (rows.map cells)).Holds (rows.map cells) := by
  have hstored : (rows.map cells).map Panel.InboundCells.stored = rows.map cells := by
    rw [List.map_map]
    exact List.map_congr_left fun r _ => r.stored_cells
  have hholds := Panel.Database.holds_ofRows (rows.map cells)
  rwa [hstored] at hholds

theorem InboundRow.wellFormed_exported (r : InboundRow) : r.exported.WellFormed := by
  have htext : ∀ s, (textValue s).WellFormed := by
    rintro (_ | s)
    · exact .null
    · exact .string s
  have hid : (Value.ofInt64 r.id).WellFormed :=
    .number ⟨r.id.le_toInt, Int.lt_trans r.id.toInt_lt (by decide)⟩
  have hkeys : ["id", "protocol", "remark", "settings"].Pairwise (· < ·) := by decide
  refine .object (List.pairwise_map.mp hkeys) ?_
  simp only [fields, List.forall_mem_cons]
  exact ⟨hid, htext _, htext _, htext _, List.forall_mem_nil _⟩

theorem InboundRow.restorable_exported (r : InboundRow) (depth : Nat) :
    r.exported.Restorable (depth + 1) := by
  have htext : ∀ s, (textValue s).Restorable depth := by
    rintro (_ | s)
    · exact .null
    · exact .string s
  refine .object ?_
  simp only [fields, List.forall_mem_cons]
  exact ⟨.whole _, htext _, htext _, htext _, List.forall_mem_nil _⟩

theorem exports_print (rows : List InboundRow) :
    Exports (Value.array (rows.map exported)).print.toUTF8.toList rows := by
  have hwell : (Value.array (rows.map exported)).WellFormed :=
    .array (List.forall_mem_map.mpr fun r _ => r.wellFormed_exported)
  have hlimits : (Value.array (rows.map exported)).Restorable Json.maxDepth :=
    .array (List.forall_mem_map.mpr fun r _ => r.restorable_exported _)
  exact ⟨_, decodeText_toUTF8 _, Json.Value.read_print hwell hlimits⟩

theorem inbounds_exported (rows : List InboundRow) :
    Export.inbounds (.array (rows.map exported)) =
      if rows.all hasNames then .ok (rows.map inbound) else .error (.mismatch nullText) := by
  have hdecoded : (rows.map exported).mapM Inbound.ofValue? =
      if rows.all hasNames then .ok (rows.map inbound) else .error nullText := by
    rw [List.mapM_map]
    exact mapM_eq_if_all fun r _ => r.ofValue?_exported
  have hlist : Export.inbounds (.array (rows.map exported)) =
      ((rows.map exported).mapM Inbound.ofValue?).mapError .mismatch := rfl
  rw [hlist, hdecoded]
  split_ifs <;> rfl

variable {m : Type → Type} [Monad m] [LawfulMonad m] {disk : Disk m} {b : Backend}
  {db : Panel.Database} {rows : List InboundRow} {content : List UInt8}

theorem Panel.Database.Holds.fetch (hkind : b.kind = .sqlite)
    (hopen : disk.openPanel b.path = pure (.ok (.ok db))) (hrows : db.Holds (rows.map cells))
    (hids : rows.Pairwise (·.id < ·.id)) :
    b.fetch disk = pure (.ok (Inbound.allEntries b.origin (rows.map inbound))) := by
  have hdecoded : (rows.map cells).mapM Panel.InboundCells.inbound = .ok (rows.map inbound) := by
    rw [mapM_eq_ok_iff, List.forall₂_map_left_iff, List.forall₂_map_right_iff, List.forall₂_same]
    exact fun r _ => r.inbound_cells
  have hentries := hrows.entries (List.pairwise_map.mpr hids) b
  rw [hdecoded] at hentries
  rw [Backend.fetch, hkind]
  simp only [hopen, pure_bind, hentries]
  rfl

theorem Exports.fetch (hkind : b.kind = .json) (hread : disk.read b.path = pure (.ok content))
    (hrows : Exports content rows) :
    b.fetch disk = pure (if rows.all hasNames then
        .ok (Inbound.allEntries b.origin (rows.map inbound))
      else .error (.badExport b.path (.mismatch nullText))) := by
  obtain ⟨text, htext, hdocument⟩ := hrows
  have hdecode : b.entriesOfFile (.ok content) =
      b.entriesOfDocument (.array (rows.map exported)) := by
    simp [Backend.entriesOfFile, Except.mapError, bind, Except.bind, htext, hdocument]
  have hentries : b.entriesOfDocument (.array (rows.map exported)) =
      if rows.all hasNames then .ok (Inbound.allEntries b.origin (rows.map inbound))
      else .error (.badExport b.path (.mismatch nullText)) := by
    rw [Backend.entriesOfDocument, inbounds_exported]
    split_ifs <;> rfl
  rw [Backend.fetch, hkind]
  simp [hread, hdecode, hentries]

/-- The two kinds of backend agree exactly where no remark and no protocol is null; otherwise the
export is refused. -/
theorem panel_and_export_agree {panel file : Backend} (hpanel : panel.kind = .sqlite)
    (hfile : file.kind = .json) (horigin : file.origin = panel.origin)
    (hids : rows.Pairwise (·.id < ·.id))
    (hopen : disk.openPanel panel.path = pure (.ok (.ok db)))
    (hrows : db.Holds (rows.map cells))
    (hread : disk.read file.path = pure (.ok content)) (hcontent : Exports content rows) :
    panel.fetch disk = pure (.ok (Inbound.allEntries panel.origin (rows.map inbound))) ∧
    file.fetch disk = pure (if rows.all hasNames then
        .ok (Inbound.allEntries panel.origin (rows.map inbound))
      else .error (.badExport file.path (.mismatch nullText))) := by
  refine ⟨hrows.fetch hpanel hopen hids, ?_⟩
  rw [← horigin]
  exact hcontent.fetch hfile hread

def twoFiles (db : Panel.Database) (content : List UInt8) : Disk Id where
  workingDirectory := pure "/"
  kindOf path := pure (if path ∈ ["/p", "/e"] then .ok .file else .error .notFound)
  read path := pure (if path = "/e" then .ok content else .error .notFound)
  readPanel path _ := pure (if path = "/p" then .ok (.ok db) else .error .notFound)
  makeDirectory _ := pure (.error .alreadyExists)
  write _ _ := pure (.error .notFound)

theorem steps_panelPath : Path.steps "/p" = ["", "p"] := by decide

theorem openPanel_twoFiles (db : Panel.Database) (content : List UInt8) :
    (twoFiles db content).openPanel "/p" = pure (.ok (.ok db)) := by
  have haddress : Panel.Address.ofText "/p" = .ok (.file "/p" .opened) := by
    simp [Panel.Address.ofText, Panel.Address.ofPath]
  have habsolute : Path.isAbsolute "/p" = true := by simp [Path.isAbsolute]
  have hroot : Path.fromRoot ["p"] = "/p" := by decide
  simp [Disk.openPanel, haddress, Disk.openFile, habsolute, steps_panelPath, Disk.follow,
    Path.staysInPlace, hroot, twoFiles]

theorem read_twoFiles (db : Panel.Database) (content : List UInt8) :
    (twoFiles db content).read "/e" = pure (.ok content) := rfl

def panelBackend : Backend := ⟨"a", none, .sqlite, "/p"⟩

def exportBackend : Backend := ⟨"a", none, .json, "/e"⟩

def bothForms (rows : List InboundRow) : Disk Id :=
  twoFiles (.ofRows (rows.map cells)) (Value.array (rows.map exported)).print.toUTF8.toList

def mixedRows : List InboundRow :=
  [⟨1, some "main", some "vless",
      some "\x7b\"clients\":[\x7b\"id\":\"u1\",\"email\":\"u@x.io\"\x7d]\x7d"⟩,
    ⟨2, some "", some "socks", none⟩, ⟨5, some "", some "vless", some "\x7b"⟩]

theorem panel_and_export_agree_mixed :
    (Inbound.allEntries panelBackend.origin (mixedRows.map inbound)).length = 1 ∧
    panelBackend.fetch (bothForms mixedRows) =
      pure (.ok (Inbound.allEntries panelBackend.origin (mixedRows.map inbound))) ∧
    exportBackend.fetch (bothForms mixedRows) =
      pure (.ok (Inbound.allEntries panelBackend.origin (mixedRows.map inbound))) := by
  refine ⟨by decide +kernel, ?_⟩
  exact panel_and_export_agree rfl rfl rfl (by decide) (openPanel_twoFiles _ _)
    (holds_cells mixedRows) (read_twoFiles _ _) (exports_print mixedRows)

def unnamedRows : List InboundRow :=
  [⟨1, none, some "vless", some "\x7b\"clients\":[\x7b\"id\":\"u1\"\x7d]\x7d"⟩]

theorem unnamed_rows_differ :
    panelBackend.origin = exportBackend.origin ∧ unnamedRows.Pairwise (·.id < ·.id) ∧
    (Panel.Database.ofRows (unnamedRows.map cells)).Holds (unnamedRows.map cells) ∧
    Exports (Value.array (unnamedRows.map exported)).print.toUTF8.toList unnamedRows ∧
    panelBackend.fetch (bothForms unnamedRows) ≠ exportBackend.fetch (bothForms unnamedRows) := by
  have hids : unnamedRows.Pairwise (·.id < ·.id) := by decide
  have hholds := holds_cells unnamedRows
  have hexports := exports_print unnamedRows
  refine ⟨rfl, hids, hholds, hexports, ?_⟩
  rw [hholds.fetch rfl (openPanel_twoFiles _ _) hids, hexports.fetch rfl (read_twoFiles _ _)]
  intro h
  cases h

end FleetDrift
