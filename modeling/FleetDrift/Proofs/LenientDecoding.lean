import FleetDrift.Proofs.SavedSnapshots

/-! # Objects as entries

Every object is an entry. What decides are the fields that an entry knows; a null among them says no
more than an absent field, and each of the three numbers is finite whatever stands for it.
-/

namespace FleetDrift

open Json (Value Fields)

namespace Json.Fields

def without (key : String) (fields : Fields) : Fields := fields.filter fun f => f.1 ≠ key

theorem get?_without (key other : String) (fields : Fields) :
    (fields.without key).get? other = if other = key then none else fields.get? other := by
  rw [without, get?_filter fun name => decide (name ≠ key)]
  by_cases h : other = key
  · simp [h]
  · simp [h]

end Json.Fields

namespace Entry

variable {fields fields' : Fields}

theorem Key.name_ne {name : String} (h : name ∉ Key.all.map Key.name) (key : Key) :
    key.name ≠ name := by
  rintro rfl
  exact h key.name_mem

/-- Entries are the same when their known fields are, be they null or absent. -/
theorem ofFields_congr (h : ∀ key : Key,
    (fields.get? key.name).getD .null = (fields'.get? key.name).getD .null) :
    ofFields fields = ofFields fields' := by
  simp only [ofFields, h]

theorem ofFields_insert_unknown {name : String} (h : name ∉ Key.all.map Key.name) (v : Value)
    (fields : Fields) : ofFields (fields.insert name v) = ofFields fields := by
  refine ofFields_congr fun key => ?_
  rw [Fields.get?_insert_of_ne (Key.name_ne h key)]

theorem ofFields_without_unknown {name : String} (h : name ∉ Key.all.map Key.name)
    (fields : Fields) : ofFields (fields.without name) = ofFields fields := by
  refine ofFields_congr fun key => ?_
  rw [Fields.get?_without, if_neg (Key.name_ne h key)]

theorem ofFields_insert_null (key : Key) (fields : Fields) :
    ofFields (fields.insert key.name .null) = ofFields (fields.without key.name) := by
  refine ofFields_congr fun other => ?_
  rw [Fields.get?_without]
  by_cases h : other.name = key.name
  · rw [if_pos h, h, Fields.get?_insert_self]
    rfl
  · rw [if_neg h, Fields.get?_insert_of_ne h]

theorem read_print (hwell : (Value.object fields).WellFormed)
    (h : (Value.object fields).Restorable Json.maxDepth) :
    read (Value.object fields).print = .ok (ofFields fields) := by
  cases hwell with
  | object hkeys hvalues =>
    cases h with
    | object hrestored =>
      exact Json.readWholeText_print (readsAs_reader_object hkeys.keys_ne hvalues hrestored)

/-- What an object is decoded to, as it stands and from its text. -/
structure DecodesTo (fields : Fields) (e : Entry) : Prop where
  value : ofValue? (.object fields) = .ok e
  text : (Value.object fields).WellFormed → (Value.object fields).Restorable Json.maxDepth →
    read (Value.object fields).print = .ok e
  expiryTime : e.expiryTime.isFinite
  totalGB : e.totalGB.isFinite
  limitIp : e.limitIp.isFinite

theorem decodesTo_ofFields (fields : Fields) : DecodesTo fields (ofFields fields) where
  value := rfl
  text := read_print
  expiryTime := Lenient.isFinite_number _
  totalGB := Lenient.isFinite_number _
  limitIp := Lenient.isFinite_number _

/-- Every object is decoded, and to the same entry when only other fields change or a null goes. -/
theorem objects_decoded (fields : Fields) : ∃ e, DecodesTo fields e ∧
    (∀ fields', (∀ key : Key, fields'.get? key.name = fields.get? key.name) →
      DecodesTo fields' e) ∧
    (∀ name v, name ∉ Key.all.map Key.name →
      DecodesTo (fields.insert name v) e ∧ DecodesTo (fields.without name) e) ∧
    ∀ key : Key, ∃ e', DecodesTo (fields.insert key.name .null) e' ∧
      DecodesTo (fields.without key.name) e' := by
  refine ⟨ofFields fields, decodesTo_ofFields fields, ?_, ?_, ?_⟩
  · intro fields' h
    have hsame : ofFields fields' = ofFields fields := ofFields_congr fun key => by rw [h key]
    exact hsame ▸ decodesTo_ofFields fields'
  · intro name v h
    have hinsert := ofFields_insert_unknown h v fields
    have hwithout := ofFields_without_unknown h fields
    exact ⟨hinsert ▸ decodesTo_ofFields _, hwithout ▸ decodesTo_ofFields _⟩
  · intro key
    exact ⟨_, ofFields_insert_null key fields ▸ decodesTo_ofFields _, decodesTo_ofFields _⟩

def oddFields (comment : String) : Fields :=
  [("comment", .string comment), ("email", .null), ("expiryTime", .string " 1e999 "),
    ("limitIp", .array [.object [("a", .null)]]), ("totalGB", .string "NaN")]

theorem wellFormed_oddFields : (Value.object (oddFields "new")).WellFormed := by
  have hlist : (Value.array [.object [("a", .null)]]).WellFormed :=
    .array (List.forall_mem_singleton.mpr
      (.object (List.pairwise_singleton _ _) (List.forall_mem_singleton.mpr .null)))
  refine .object (by decide) ?_
  simp only [oddFields, List.forall_mem_cons]
  exact ⟨.string _, .null, .string _, hlist, .string _, List.forall_mem_nil _⟩

theorem restorable_oddFields : (Value.object (oddFields "new")).Restorable Json.maxDepth := by
  have hlist : (Value.array [.object [("a", .null)]]).Restorable 126 :=
    .array (List.forall_mem_singleton.mpr (.object (List.forall_mem_singleton.mpr .null)))
  refine .object ?_
  simp only [oddFields, List.forall_mem_cons]
  exact ⟨.string _, .null, .string _, hlist, .string _, List.forall_mem_nil _⟩

theorem objects_decoded_odd :
    (Value.object (oddFields "new")).WellFormed ∧
    (Value.object (oddFields "new")).Restorable Json.maxDepth ∧
    (∀ key : Key, Fields.get? (oddFields "old") key.name = (oddFields "new").get? key.name) ∧
    "comment" ∉ Key.all.map Key.name ∧
    ∃ e, read (Value.object (oddFields "new")).print = .ok e ∧
      e.expiryTime = .zero ∧ e.totalGB = .zero ∧ e.limitIp = .zero ∧
      ofValue? (.object (oddFields "old")) = .ok e ∧
      ofValue? (.object ((oddFields "new").without "comment")) = .ok e := by
  have hsame : ∀ key : Key,
      Fields.get? (oddFields "old") key.name = (oddFields "new").get? key.name := by
    intro key
    cases key <;> rfl
  have hunknown : "comment" ∉ Key.all.map Key.name := by decide
  obtain ⟨e, he, hother, hcomment, -⟩ := objects_decoded (oddFields "new")
  have hread := he.text wellFormed_oddFields restorable_oddFields
  have hwithout := (hcomment "comment" .null hunknown).2
  refine ⟨wellFormed_oddFields, restorable_oddFields, hsame, hunknown, e, hread, ?_, ?_, ?_,
    (hother _ hsame).value, hwithout.value⟩
  all_goals
    cases he.value
    decide +kernel

end Entry

end FleetDrift
