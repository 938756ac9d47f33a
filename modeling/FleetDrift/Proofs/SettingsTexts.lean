import FleetDrift.Proofs.Blanks
import FleetDrift.Proofs.PrintedRecords
import FleetDrift.Proofs.ReplacedSettings

/-!
# Settings as a text and as an object

The text of settings is read straight into the clients they list, an object is decoded. Both take
the list under one key and pass over all else, and what is no list is refused by both for its type.
-/

namespace FleetDrift

open Json (Value Fields Fault ReadsAs Reads)

namespace Json

variable {v : Value} {rest : List Char} {depth : Nat}

theorem Value.readScalar_chars (hv : v.WellFormed) (h : v.Restorable depth)
    (hlist : v.kind ≠ .array) (hobject : v.kind ≠ .object) (hrest : Ended rest) :
    ∃ c cs, v.chars = c :: cs ∧ isSpace c = false ∧ c ≠ '[' ∧ c ≠ '\x7b' ∧
      readScalar (c :: (cs ++ rest)) = .ok (v, rest) := by
  obtain ⟨c, cs, hc, hlead⟩ := v.exists_lead hv.finite
  obtain ⟨c', cs', hc', hspace, -⟩ := v.exists_first hv.finite
  rw [hc] at hc'
  cases hc'
  have hnotList : c ≠ '[' := by
    rintro rfl
    exact hlist (Option.some.inj hlead).symm
  have hnotObject : c ≠ '\x7b' := by
    rintro rfl
    exact hobject (Option.some.inj hlead).symm
  have hread := readsAs_readValue hv h hrest
  rw [hc, List.cons_append, readValue_cons depth hspace hnotList hnotObject] at hread
  exact ⟨c, cs, hc, hspace, hnotList, hnotObject, hread⟩

theorem refuseType_scalar {α : Type} {expected : String} {c : Char} {cs : List Char}
    (hlist : c ≠ '[') (hobject : c ≠ '\x7b') (h : readScalar (c :: cs) = .ok (v, rest)) :
    (refuseType expected (c :: cs) : Except Stop α).mapError Stop.fault =
      .error (.mismatch (.invalidType (Found.ofValue v) expected)) := by
  unfold refuseType
  split
  · next heq => exact absurd (List.cons.inj heq).1 hlist
  · next heq => exact absurd (List.cons.inj heq).1 hobject
  · rw [h]
    rfl

theorem reads_readSequence_values (hv : v.WellFormed) (h : v.Restorable (depth + 1)) :
    Reads (readSequence readValue (depth + 1)) v ((Inbound.listField v).mapError .mismatch) := by
  intro rest hrest
  have hscalar : v.kind ≠ .array → v.kind ≠ .object →
      (readSequence readValue (depth + 1) (v.chars ++ rest)).mapError Stop.fault =
        .error (.mismatch (.invalidType (Found.ofValue v) "a sequence")) := by
    intro hlist hobject
    obtain ⟨c, cs, hc, hspace, hnotList, hnotObject, hread⟩ :=
      v.readScalar_chars hv h hlist hobject hrest
    rw [hc, List.cons_append, readSequence, skipSpaces_cons hspace]
    simp only [if_neg hnotList]
    exact refuseType_scalar hnotList hnotObject hread
  cases h with
  | null | bool | whole | real | string =>
    exact hscalar (by simp [Value.kind]) (by simp [Value.kind])
  | array hitems =>
    cases hv with
    | array hvalues => exact mapError_eq_ok.mpr (readsAs_readSequence_values hvalues hitems hrest)
  | @object _ fields hvalues =>
    rw [Value.chars, List.cons_append, List.cons_append, readSequence, skipSpaces_cons (by decide)]
    rfl

end Json

namespace Inbound

variable {origin : Origin} {inbound : Inbound} {fields : Fields}

def settingsReader : Json.Reader (Json.Bindings (List Value)) :=
  Json.readRecord "struct InboundSettings" ["clients"] (Json.readSequence Json.readValue)
    Json.maxDepth

theorem readClients_eq (s : String) : readClients s =
    match Json.readWholeText settingsReader s with
    | .ok found => .ok (((found.find? fun f => f.1 = "clients").map (·.2)).getD [])
    | .error located => .error located.fault :=
  rfl

theorem filter_name (hkeys : fields.Pairwise fun f g => f.1 ≠ g.1) (name : String) :
    (fields.filter fun f => f.1 ∈ [name]) = ((fields.get? name).map (name, ·)).toList := by
  induction fields with
  | nil => rfl
  | cons f fields ih =>
    obtain ⟨key, v⟩ := f
    obtain ⟨hother, hkeys⟩ := List.pairwise_cons.mp hkeys
    rw [Fields.get?_cons]
    by_cases hkey : key = name
    · subst hkey
      have hnone : (fields.filter fun f => f.1 ∈ [key]) = [] := by
        rw [List.filter_eq_nil_iff]
        intro f hf
        simpa using (hother f hf).symm
      rw [List.filter_cons_of_pos (by simp), hnone, if_pos rfl]
      rfl
    · rw [List.filter_cons_of_neg (by simpa using hkey), if_neg hkey, ih hkeys]

/-- Printed settings list the clients that their object does, or have the same fault. Two levels of
brackets are around the clients. -/
theorem readClients_object (hkeys : fields.Pairwise fun f g => f.1 ≠ g.1)
    (hvalues : ∀ f ∈ fields, f.2.WellFormed) (h : ∀ f ∈ fields, f.2.Restorable 126) :
    readClients (Value.object fields).print =
      (clientsOfSettings (.object fields)).mapError .mismatch := by
  have hknown : ∀ f ∈ fields, f.1 ∈ ["clients"] →
      Reads (Json.readSequence Json.readValue 126) f.2 ((listField f.2).mapError .mismatch) :=
    fun f hf _ => Json.reads_readSequence_values (hvalues f hf) (h f hf)
  have hunknown : ∀ f ∈ fields, f.1 ∉ ["clients"] → ReadsAs Json.skipAnyValue f.2 () :=
    fun f hf _ => Value.readsAs_skipAnyValue (hvalues f hf) (h f hf)
  have hrecord : Reads settingsReader (.object fields) _ :=
    Json.reads_readRecord "struct InboundSettings" (fun v => (listField v).mapError .mismatch)
      hkeys hknown hunknown
  have hread := Json.readWholeText_reads hrecord
  rw [filter_name hkeys] at hread
  have hclients : readClients (Value.object fields).print =
      ((Json.readWholeText settingsReader (Value.object fields).print).mapError
        Json.Located.fault).map fun found =>
          ((found.find? fun f => f.1 = "clients").map (·.2)).getD [] := by
    rw [readClients_eq]
    cases Json.readWholeText settingsReader (Value.object fields).print <;> rfl
  rw [hclients, hread, clientsOfSettings]
  cases fields.get? "clients" with
  | none => rfl
  | some v =>
    simp only [Option.map_some, Option.toList_some, List.mapM_cons, List.mapM_nil, optional]
    cases listField v <;> rfl

theorem entriesFrom_listed (v : Value) (index : Nat) (clients : List Value) :
    (inbound.withSettings v).entriesFrom origin index clients =
      inbound.entriesFrom origin index clients := by
  induction clients generalizing index with
  | nil => rfl
  | cons client clients ih =>
    rw [entriesFrom, entriesFrom, ih]
    rfl

theorem clientValues_string {s : String} (hs : inbound.settings = .string s)
    (hnotBlank : Text.trim s ≠ "") :
    inbound.clientValues = (readClients s).mapError (.malformedSettings inbound.id) := by
  rw [clientValues, hs]
  exact if_neg hnotBlank

theorem clientValues_print :
    (inbound.withSettings (.string (Value.object fields).print)).clientValues =
      (readClients (Value.object fields).print).mapError (.malformedSettings inbound.id) := by
  have hnotBlank : Text.trim (Value.object fields).print ≠ "" := by
    intro hblank
    have hbrace : '\x7b' ∈ (Value.object fields).print.toList := by
      rw [Value.print, String.toList_ofList, Value.chars, List.cons_append]
      exact List.mem_cons_self
    exact absurd (Text.isBlank_of_trim_eq_empty hblank _ hbrace) (by decide)
  exact clientValues_string rfl hnotBlank

/-- Settings give the same entries as an object and as the text of it, or the same fault. -/
theorem settings_text_as_object (origin : Origin) (inbound : Inbound) {fields : Fields}
    (hwell : (Value.object fields).WellFormed)
    (h : (Value.object fields).Restorable Json.maxDepth) :
    (inbound.withSettings (.string (Value.object fields).print)).entries origin =
      (inbound.withSettings (.object fields)).entries origin := by
  have hread : readClients (Value.object fields).print =
      (clientsOfSettings (.object fields)).mapError .mismatch := by
    cases hwell with
    | object hkeys hvalues =>
      cases h with
      | object hrestored => exact readClients_object hkeys.keys_ne hvalues hrestored
  have hobject : (inbound.withSettings (.object fields)).clientValues =
      (clientsOfSettings (.object fields)).mapError fun m =>
        .malformedSettings inbound.id (.mismatch m) :=
    rfl
  rw [entries, entries, clientValues_print, hread, hobject]
  cases clientsOfSettings (.object fields) with
  | error m => rfl
  | ok clients =>
    exact (entriesFrom_listed _ 0 clients).trans (entriesFrom_listed _ 0 clients).symm

def listener : Inbound := ⟨1, "r", "vless", .null⟩

def oneAndHalf : Number.Binary64 := Number.Decimal.nearest false ⟨15, -1⟩

def listenerClients : List Value :=
  [.object [("email", .string "a@x.io"), ("limitIp", .number (.real oneAndHalf))],
    .array [.string "b"]]

def listenerFields : Fields :=
  [("clients", .array listenerClients), ("decryption", .string "none"),
    ("fallbacks", .array [.object [("dest", .number (.whole 80))], .null])]

theorem wellFormed_listenerFields : (Value.object listenerFields).WellFormed := by
  have hdest : (Value.object [("dest", .number (.whole 80))]).WellFormed :=
    .object (List.pairwise_singleton _ _) (List.forall_mem_singleton.mpr (.number (by decide)))
  have hclient : (Value.object [("email", .string "a@x.io"),
      ("limitIp", .number (.real oneAndHalf))]).WellFormed :=
    .object (by decide) (List.forall_mem_cons.mpr ⟨.string _,
      List.forall_mem_singleton.mpr (.number (by decide +kernel))⟩)
  have hclients : ∀ client ∈ listenerClients, client.WellFormed :=
    List.forall_mem_cons.mpr ⟨hclient,
      List.forall_mem_singleton.mpr (.array (List.forall_mem_singleton.mpr (.string _)))⟩
  refine .object (by decide) ?_
  simp only [listenerFields, List.forall_mem_cons]
  exact ⟨.array hclients, .string _, .array (List.forall_mem_cons.mpr ⟨hdest,
    List.forall_mem_singleton.mpr .null⟩), List.forall_mem_nil _⟩

theorem restorable_listenerFields : (Value.object listenerFields).Restorable Json.maxDepth := by
  have hreal : (Json.Numeral.real oneAndHalf).ReadsBack := by
    have hwell : (Json.Numeral.real oneAndHalf).WellFormed := by decide +kernel
    rw [Json.Numeral.readsBack_iff hwell.finite]
    exact Json.readScalar_digits (by decide +kernel) (by decide +kernel)
  have hdest : (Value.object [("dest", .number (.whole 80))]).Restorable 125 :=
    .object (List.forall_mem_singleton.mpr (.whole 80))
  have hclient : (Value.object [("email", .string "a@x.io"),
      ("limitIp", .number (.real oneAndHalf))]).Restorable 125 :=
    .object (List.forall_mem_cons.mpr ⟨.string _, List.forall_mem_singleton.mpr (.real hreal)⟩)
  have hclients : ∀ client ∈ listenerClients, client.Restorable 125 :=
    List.forall_mem_cons.mpr ⟨hclient,
      List.forall_mem_singleton.mpr (.array (List.forall_mem_singleton.mpr (.string _)))⟩
  refine .object ?_
  simp only [listenerFields, List.forall_mem_cons]
  exact ⟨.array hclients, .string _, .array (List.forall_mem_cons.mpr ⟨hdest,
    List.forall_mem_singleton.mpr .null⟩), List.forall_mem_nil _⟩

/-- Both forms give two entries. -/
theorem settings_text_as_object_listener :
    (Value.object listenerFields).WellFormed ∧
    (Value.object listenerFields).Restorable Json.maxDepth ∧
    (listener.withSettings (.string (Value.object listenerFields).print)).entries ⟨"a", "a"⟩ =
      (listener.withSettings (.object listenerFields)).entries ⟨"a", "a"⟩ ∧
    ((listener.withSettings (.object listenerFields)).contribution ⟨"a", "a"⟩).length = 2 :=
  ⟨wellFormed_listenerFields, restorable_listenerFields,
    settings_text_as_object _ listener wellFormed_listenerFields restorable_listenerFields,
    by decide +kernel⟩

end Inbound

end FleetDrift
