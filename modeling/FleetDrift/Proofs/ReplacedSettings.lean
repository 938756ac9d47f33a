import FleetDrift.Proofs.PanelRows

/-! # Other settings of one inbound

Settings are only looked into one inbound after another, when all inbounds have been read. So what
one inbound has there does not touch the entries of the others. What keeps an inbound from being
read at all is no matter of its settings in an export. In a panel it is: settings that are no text
of characters stop the reading of the whole table.
-/

namespace FleetDrift

open Json (Value Fields)

namespace Inbound

variable {origin : Origin} {inbound : Inbound} {inbounds : List Inbound} {i : Nat}

/-- What an inbound adds to the entries of its backend. -/
def contribution (origin : Origin) (inbound : Inbound) : List Entry :=
  match inbound.entries origin with
  | .ok es => es
  | .error _ => []

def withSettings (v : Value) (inbound : Inbound) : Inbound := { inbound with settings := v }

/-- The entries of a backend with an inbound at a position; the others are as given. -/
def entriesBeside (origin : Origin) (inbounds : List Inbound) (i : Nat) (inbound : Inbound) :
    List Entry :=
  allEntries origin (inbounds.take i) ++ inbound.contribution origin ++
    allEntries origin (inbounds.drop (i + 1))

theorem allEntries_beside :
    allEntries origin (inbounds.take i ++ inbound :: inbounds.drop (i + 1)) =
      entriesBeside origin inbounds i inbound := by
  have hflat : allEntries origin = List.flatMap (contribution origin) := rfl
  rw [entriesBeside, hflat, List.flatMap_append, List.flatMap_cons, List.append_assoc]

theorem allEntries_eq (h : inbounds[i]? = some inbound) :
    allEntries origin inbounds = entriesBeside origin inbounds i inbound := by
  obtain ⟨hi, rfl⟩ := List.getElem?_eq_some_iff.mp h
  rw [← allEntries_beside, ← List.drop_eq_getElem_cons hi, List.take_append_drop]

theorem allEntries_modify (h : inbounds[i]? = some inbound) (f : Inbound → Inbound) :
    allEntries origin (inbounds.modify i f) = entriesBeside origin inbounds i (f inbound) := by
  obtain ⟨hi, rfl⟩ := List.getElem?_eq_some_iff.mp h
  rw [← allEntries_beside, List.modify_eq_take_cons_drop hi]

end Inbound

namespace Export

/-- An inbound of an export with other settings. The fields before them are there by position, or
else empty. -/
def withSettings (v : Value) : Value → Value
  | .object fields => .object (Fields.insert "settings" v fields)
  | .array (id :: rest) =>
    .array [id, (rest[0]?).getD (.string ""), (rest[1]?).getD (.string ""), v]
  | other => other

def withSettingsAt (i : Nat) (v : Value) : Value → Value
  | .array items => .array (items.modify i (withSettings v))
  | .object fields =>
    match Fields.get? fields "obj" with
    | some (.array items) =>
      .object (Fields.insert "obj" (.array (items.modify i (withSettings v))) fields)
    | _ => .object fields
  | other => other

variable {x v document : Value} {inbound : Inbound} {inbounds : List Inbound} {i : Nat}

theorem ofFields_withSettings (fields : Fields) (v : Value) :
    Inbound.ofFields (fields.insert "settings" v) =
      (Inbound.ofFields fields).map (Inbound.withSettings v) := by
  have hkept : ∀ {name}, name ≠ "settings" →
      (fields.insert "settings" v).get? name = fields.get? name := by
    intro name hname
    exact Fields.get?_insert_of_ne hname fields v
  rw [Inbound.ofFields, Inbound.ofFields, hkept (by decide), hkept (by decide), hkept (by decide),
    Fields.get?_insert_self]
  cases Inbound.optional (fun v => (Inbound.int64Field v).map some) none (fields.get? "id") with
  | error m => rfl
  | ok id =>
    cases Inbound.optional Inbound.textField "" (fields.get? "protocol") with
    | error m => rfl
    | ok protocol =>
      cases Inbound.optional Inbound.textField "" (fields.get? "remark") with
      | error m => rfl
      | ok remark => cases id <;> rfl

theorem ofItems_withSettings {first : Value} {rest : List Value}
    (h : Inbound.ofItems (first :: rest) = .ok inbound) (v : Value) :
    Inbound.ofItems [first, (rest[0]?).getD (.string ""), (rest[1]?).getD (.string ""), v] =
      .ok (inbound.withSettings v) := by
  have hpadded : ∀ item : Option Value,
      Inbound.optional Inbound.textField "" (some (item.getD (.string ""))) =
        Inbound.optional Inbound.textField "" item := by
    rintro (_ | item) <;> rfl
  simp only [Inbound.ofItems, Json.bind_eq_ok] at h
  obtain ⟨id, hid, remark, hremark, protocol, hprotocol, h⟩ := h
  split_ifs at h
  cases h
  rw [← hpadded] at hremark hprotocol
  exact Json.bind_eq_ok.mpr ⟨id, hid, Json.bind_eq_ok.mpr ⟨remark, hremark,
    Json.bind_eq_ok.mpr ⟨protocol, hprotocol, rfl⟩⟩⟩

theorem ofValue?_withSettings (h : Inbound.ofValue? x = .ok inbound) (v : Value) :
    Inbound.ofValue? (withSettings v x) = .ok (inbound.withSettings v) := by
  match x, h with
  | .object fields, h =>
    have h : Inbound.ofFields fields = .ok inbound := h
    have hreplaced := ofFields_withSettings fields v
    rwa [h] at hreplaced
  | .array (first :: rest), h => exact ofItems_withSettings h v

theorem reportsFailure_insert (fields : Fields) (w : Value) :
    reportsFailure (fields.insert "obj" w) = reportsFailure fields := by
  rw [reportsFailure, Fields.get?_insert_of_ne (by decide)]
  rfl

theorem listValue_withSettingsAt {items : List Value}
    (h : listValue document = .ok (.array items)) (i : Nat) (v : Value) :
    listValue (withSettingsAt i v document) = .ok (.array (items.modify i (withSettings v))) := by
  match document, h with
  | .array items, h =>
    cases h
    rfl
  | .object fields, h =>
    have hok : reportsFailure fields = false := by
      by_contra hfailure
      rw [listValue, if_pos (Bool.eq_true_of_not_eq_false hfailure)] at h
      cases h
    rw [listValue, hok] at h
    simp only [Bool.false_eq_true, if_false] at h
    cases hlisted : Fields.get? fields "obj" with
    | none =>
      rw [hlisted] at h
      cases h
      simp [withSettingsAt, listValue, hlisted, hok]
    | some w =>
      rw [hlisted] at h
      cases w with
      | null =>
        cases h
        simp [withSettingsAt, listValue, hlisted, hok]
      | array listed =>
        cases h
        simp [withSettingsAt, listValue, hlisted, hok, reportsFailure_insert,
          Fields.get?_insert_self]
      | _ => cases h

theorem inbounds_eq_ok_iff : Export.inbounds document = .ok inbounds ↔
    ∃ items, listValue document = .ok (.array items) ∧
      items.mapM Inbound.ofValue? = .ok inbounds := by
  rw [Export.inbounds, Json.bind_eq_ok]
  simp only [Json.bind_eq_ok, mapError_eq_ok]
  constructor
  · rintro ⟨w, hw, items, hitems, hinbounds⟩
    cases w with
    | array listed =>
      cases hitems
      exact ⟨_, hw, hinbounds⟩
    | _ => cases hitems
  · rintro ⟨items, hlist, hinbounds⟩
    exact ⟨_, hlist, items, rfl, hinbounds⟩

theorem inbounds_withSettingsAt (h : Export.inbounds document = .ok inbounds)
    (hi : i < inbounds.length) (v : Value) :
    Export.inbounds (withSettingsAt i v document) =
      .ok (inbounds.modify i (Inbound.withSettings v)) := by
  obtain ⟨items, hlist, hinbounds⟩ := inbounds_eq_ok_iff.mp h
  have hlength : items.length = inbounds.length := (mapM_eq_ok_iff.mp hinbounds).length_eq
  refine inbounds_eq_ok_iff.mpr ⟨_, listValue_withSettingsAt hlist i v, ?_⟩
  have hgiven : ∀ x inbound, Inbound.ofValue? x = .ok inbound →
      Inbound.ofValue? (withSettings v x) =
        (Except.ok v : Except Json.Mismatch Value).map (Inbound.withSettings · inbound) := by
    intro x inbound hx
    exact ofValue?_withSettings hx v
  exact mapM_modify hinbounds (hlength ▸ hi) hgiven

theorem entries_withSettingsAt (b : Backend) (h : Export.inbounds document = .ok inbounds)
    (hi : inbounds[i]? = some inbound) (v : Value) :
    b.entriesOfDocument (withSettingsAt i v document) =
      .ok (Inbound.entriesBeside b.origin inbounds i (inbound.withSettings v)) := by
  obtain ⟨hlt, -⟩ := List.getElem?_eq_some_iff.mp hi
  rw [Backend.entriesOfDocument, inbounds_withSettingsAt h hlt, ← Inbound.allEntries_modify hi]
  rfl

end Export

namespace Panel

/-- No text of characters, and none that stands for one. -/
def Cell.Unreadable : Cell → Prop
  | .garbled bytes => (Text.utf8Fault? bytes).isSome
  | .blob _ => True
  | _ => False

def Cell.asSettings (c : Cell) : Except ColumnFault Value := do
  let text ← (Affinity.text.store c).asText "settings"
  .ok ((text.map .string).getD .null)

theorem Cell.unreadable_iff {c : Cell} : c.Unreadable ↔ ∃ fault, c.asSettings = .error fault := by
  have hreadable : ∀ {c : Cell} {v}, c.asSettings = .ok v →
      ¬∃ fault, c.asSettings = .error fault := by
    rintro c v h ⟨fault, hfault⟩
    rw [h] at hfault
    cases hfault
  cases c with
  | garbled bytes =>
    have hbroken : ∀ {fault}, Text.utf8Fault? bytes = some fault →
        (garbled bytes).asSettings = .error (.notUtf8 "settings" fault) := by
      intro fault hfault
      simp [asSettings, Affinity.store, asText, Row.text?, Row.cell, bind, Except.bind, hfault]
    have hempty : Text.utf8Fault? bytes = none → (garbled bytes).asSettings = .ok .null := by
      intro hfault
      simp [asSettings, Affinity.store, asText, Row.text?, Row.cell, bind, Except.bind, hfault]
    rw [Unreadable]
    cases hfault : Text.utf8Fault? bytes with
    | none => exact iff_of_false Bool.false_ne_true (hreadable (hempty hfault))
    | some fault => exact iff_of_true rfl ⟨_, hbroken hfault⟩
  | blob bytes => exact iff_of_true trivial ⟨_, rfl⟩
  | null => exact iff_of_false id (hreadable rfl)
  | integer n => exact iff_of_false id (hreadable rfl)
  | real x => exact iff_of_false id (hreadable rfl)
  | text s => exact iff_of_false id (hreadable rfl)

namespace InboundCells

variable {r : InboundCells} {rows : List InboundCells} {inbound : Inbound}
  {inbounds : List Inbound} {i : Nat}

def withSettings (c : Cell) (r : InboundCells) : InboundCells := { r with settings := c }

def panelWith (rows : List InboundCells) (i : Nat) (c : Cell) : Database :=
  .ofRows (rows.modify i (withSettings c))

def asRead (r : InboundCells) : Except ColumnFault Inbound := r.stored.inbound

theorem asRead_withSettings (h : r.asRead = .ok inbound) (c : Cell) :
    (r.withSettings c).asRead = c.asSettings.map (inbound.withSettings ·) := by
  rw [asRead, inbound_eq] at h ⊢
  simp only [Json.bind_eq_ok] at h
  obtain ⟨settings, -, remark, hremark, protocol, hprotocol, h⟩ := h
  cases h
  simp only [stored, withSettings] at *
  rw [Cell.asSettings, hremark, hprotocol]
  cases (Affinity.text.store c).asText "settings" <;> rfl

theorem ids_modify (rows : List InboundCells) (i : Nat) (c : Cell) :
    (rows.modify i (withSettings c)).map (·.id) = rows.map (·.id) := by
  induction rows generalizing i with
  | nil => cases i <;> rfl
  | cons r rows ih =>
    cases i with
    | zero => rfl
    | succ i => rw [List.modify_succ_cons, List.map_cons, List.map_cons, ih]

theorem ascending_modify (hids : rows.Pairwise (·.id < ·.id)) (i : Nat) (c : Cell) :
    (rows.modify i (withSettings c)).Pairwise (·.id < ·.id) := by
  rw [← List.pairwise_map (f := InboundCells.id) (R := (· < ·))] at hids ⊢
  rwa [ids_modify]

theorem entries_ofRows (hids : rows.Pairwise (·.id < ·.id)) (b : Backend) :
    b.entriesOfPanel (.ok (.ok (.ofRows rows))) = (do
      let inbounds ← (rows.mapM asRead).mapError .badColumn
      .ok (Inbound.allEntries b.origin inbounds)) := by
  rw [(Database.holds_ofRows rows).entries (List.pairwise_map.mpr hids), List.mapM_map]
  rfl

theorem entries_withSettings (b : Backend) (hids : rows.Pairwise (·.id < ·.id))
    (h : rows.mapM asRead = .ok inbounds) (hi : inbounds[i]? = some inbound) (c : Cell) :
    b.entriesOfPanel (.ok (.ok (panelWith rows i c))) =
      (c.asSettings.mapError .badColumn).map fun v =>
        Inbound.entriesBeside b.origin inbounds i (inbound.withSettings v) := by
  obtain ⟨hlt, -⟩ := List.getElem?_eq_some_iff.mp hi
  have hlength : rows.length = inbounds.length := (mapM_eq_ok_iff.mp h).length_eq
  have hread : (rows.modify i (withSettings c)).mapM asRead =
      c.asSettings.map fun v => inbounds.modify i (Inbound.withSettings v) := by
    refine mapM_modify h (hlength ▸ hlt) ?_
    intro r inbound hr
    exact asRead_withSettings hr c
  rw [panelWith, entries_ofRows (ascending_modify hids i c), hread]
  cases c.asSettings with
  | error fault => rfl
  | ok v => exact congrArg Except.ok (Inbound.allEntries_modify hi _)

end InboundCells

end Panel

/-- Other settings of one inbound leave the entries of the others as they were and where they were.
An export accepts any value as settings; a panel accepts all but bytes and broken texts. -/
theorem replaced_settings_confined (b : Backend) :
    (∀ document es, b.entriesOfDocument document = .ok es →
      ∃ inbounds, Export.inbounds document = .ok inbounds ∧
        ∀ i inbound, inbounds[i]? = some inbound →
          es = Inbound.entriesBeside b.origin inbounds i inbound ∧
          ∀ v, b.entriesOfDocument (Export.withSettingsAt i v document) =
            .ok (Inbound.entriesBeside b.origin inbounds i (inbound.withSettings v))) ∧
    (∀ rows es, rows.Pairwise (·.id < ·.id) →
      b.entriesOfPanel (.ok (.ok (.ofRows rows))) = .ok es →
      ∃ inbounds, rows.mapM Panel.InboundCells.asRead = .ok inbounds ∧
        ∀ i inbound, inbounds[i]? = some inbound →
          es = Inbound.entriesBeside b.origin inbounds i inbound ∧
          ∀ c, (¬c.Unreadable → ∃ v, c.asSettings = .ok v ∧
              b.entriesOfPanel (.ok (.ok (Panel.InboundCells.panelWith rows i c))) =
                .ok (Inbound.entriesBeside b.origin inbounds i (inbound.withSettings v))) ∧
            (c.Unreadable → ∃ fault,
              b.entriesOfPanel (.ok (.ok (Panel.InboundCells.panelWith rows i c))) =
                .error (.badColumn fault))) := by
  constructor
  · intro document es h
    obtain ⟨inbounds, hinbounds, hes⟩ := Json.bind_eq_ok.mp h
    rw [mapError_eq_ok] at hinbounds
    cases hes
    refine ⟨inbounds, hinbounds, ?_⟩
    intro i inbound hi
    refine ⟨Inbound.allEntries_eq hi, ?_⟩
    intro v
    exact Export.entries_withSettingsAt b hinbounds hi v
  · intro rows es hids h
    rw [Panel.InboundCells.entries_ofRows hids] at h
    obtain ⟨inbounds, hinbounds, hes⟩ := Json.bind_eq_ok.mp h
    rw [mapError_eq_ok] at hinbounds
    cases hes
    refine ⟨inbounds, hinbounds, ?_⟩
    intro i inbound hi
    refine ⟨Inbound.allEntries_eq hi, ?_⟩
    intro c
    rw [Panel.InboundCells.entries_withSettings b hids hinbounds hi, Panel.Cell.unreadable_iff]
    cases hread : c.asSettings with
    | error fault =>
      constructor
      · intro hreadable
        exact absurd ⟨fault, rfl⟩ hreadable
      · intro _
        exact ⟨fault, rfl⟩
    | ok v =>
      constructor
      · intro _
        exact ⟨v, rfl, rfl⟩
      · rintro ⟨fault, hfault⟩
        cases hfault

def clientsText (id : String) : String :=
  "\x7b\"clients\":[\x7b\"id\":\"" ++ id ++ "\"\x7d]\x7d"

def twoRows : List Panel.InboundCells :=
  [⟨1, .text "r", .text "vless", .text (clientsText "u1")⟩,
    ⟨2, .text "r", .text "vless", .text (clientsText "u2")⟩]

def twoItems : Value :=
  .array [.object [("id", .ofInt64 1), ("protocol", .string "vless"), ("remark", .string "r"),
      ("settings", .string (clientsText "u1"))],
    .array [.ofInt64 2, .string "r", .string "vless", .string (clientsText "u2")]]

def twoInbounds : List Inbound :=
  [⟨1, "r", "vless", .string (clientsText "u1")⟩, ⟨2, "r", "vless", .string (clientsText "u2")⟩]

def twoBackend : Backend := ⟨"a", none, .sqlite, "panel.db"⟩

theorem inbounds_twoItems : Export.inbounds twoItems = .ok twoInbounds := by
  rfl

theorem asRead_twoRows : twoRows.mapM Panel.InboundCells.asRead = .ok twoInbounds := by
  rfl

theorem entries_twoItems : twoBackend.entriesOfDocument twoItems =
    .ok (Inbound.allEntries twoBackend.origin twoInbounds) := by
  rw [Backend.entriesOfDocument, inbounds_twoItems]
  rfl

theorem entries_twoRows : twoBackend.entriesOfPanel (.ok (.ok (.ofRows twoRows))) =
    .ok (Inbound.allEntries twoBackend.origin twoInbounds) := by
  rw [Panel.InboundCells.entries_ofRows (by decide), asRead_twoRows]
  rfl

/-- A number in place of the second settings, in an export and in a panel, and bytes. -/
theorem replaced_settings_confined_two :
    (Inbound.allEntries twoBackend.origin (twoInbounds.take 1)).length = 1 ∧
    twoBackend.entriesOfDocument (Export.withSettingsAt 1 (.number (.whole 5)) twoItems) =
      .ok (Inbound.entriesBeside twoBackend.origin twoInbounds 1
        ⟨2, "r", "vless", .number (.whole 5)⟩) ∧
    twoBackend.entriesOfPanel (.ok (.ok (Panel.InboundCells.panelWith twoRows 1 (.integer 5)))) =
      .ok (Inbound.entriesBeside twoBackend.origin twoInbounds 1 ⟨2, "r", "vless", .string "5"⟩) ∧
    ∃ fault, twoBackend.entriesOfPanel
      (.ok (.ok (Panel.InboundCells.panelWith twoRows 1 (.blob [])))) =
        .error (.badColumn fault) := by
  obtain ⟨hexport, hpanel⟩ := replaced_settings_confined twoBackend
  obtain ⟨_, hinbounds, hitems⟩ := hexport _ _ entries_twoItems
  rw [inbounds_twoItems] at hinbounds
  cases hinbounds
  obtain ⟨_, hread, hrows⟩ := hpanel _ _ (by decide) entries_twoRows
  rw [asRead_twoRows] at hread
  cases hread
  obtain ⟨-, hcells⟩ := hrows 1 _ rfl
  obtain ⟨v, hv, hfetched⟩ := (hcells (.integer 5)).1 id
  have hstored : Panel.Affinity.text.store (.integer 5) = .text "5" := by decide +kernel
  rw [Panel.Cell.asSettings, hstored] at hv
  cases hv
  exact ⟨by decide +kernel, (hitems 1 _ rfl).2 _, hfetched, (hcells (.blob [])).2 trivial⟩

theorem blob_settings_refused :
    twoRows.Pairwise (·.id < ·.id) ∧
    twoBackend.entriesOfPanel (.ok (.ok (.ofRows twoRows))) =
      .ok (Inbound.allEntries twoBackend.origin twoInbounds) ∧
    twoBackend.entriesOfPanel (.ok (.ok (Panel.InboundCells.panelWith twoRows 1
        (.blob [0x7b, 0x7d])))) =
      .error (.badColumn (.wrongType "settings" "core::option::Option<alloc::string::String>"
        "TEXT" "BLOB")) := by
  refine ⟨by decide, entries_twoRows, ?_⟩
  rw [Panel.InboundCells.entries_withSettings _ (by decide) asRead_twoRows (i := 1) rfl]
  rfl

end FleetDrift
