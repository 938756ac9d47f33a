import FleetDrift.Proofs.PrintedRecords

/-!
# Snapshots that are saved and read again

An entry is written field by field and decoded leniently, whatever its fields once were decoded
from. What comes back has the same fields, except that a negative zero among its three numbers has
lost its sign, which is not written. So the entries that come back have the texts and the
fingerprint of the ones that were saved.
-/

namespace FleetDrift

open Json (Value Numeral Fields ReadsAs)
open Number (Binary64)

namespace Number.Binary64

variable {x : Binary64}

theorem foldZero_foldZero (x : Binary64) : x.foldZero.foldZero = x.foldZero := by
  by_cases hz : x.magnitude = 0
  · rw [foldZero, foldZero, if_pos hz]
    rfl
  · rw [foldZero, foldZero, if_neg hz, if_neg hz]

theorem fits_of_wholeInt64? {n : Int} (h : x.wholeInt64? = some n) : fitsInt64 n = true := by
  rw [wholeInt64?] at h
  split_ifs at h
  dsimp only at h
  split_ifs at h with hfits
  cases h
  exact hfits

theorem wellFormed_ofBinary64 (hx : x.isFinite) : (Value.ofBinary64 x).WellFormed := by
  rw [Value.ofBinary64]
  cases hn : x.wholeInt64? with
  | none => exact .number hx
  | some n =>
    have hfits := (fitsInt64_iff n).mp (fits_of_wholeInt64? hn)
    refine .number ?_
    rw [Numeral.WellFormed]
    omega

end Number.Binary64

theorem Json.Numeral.int64?_toInt (n : Int64) : (Numeral.whole n.toInt).int64? = some n := by
  have hfits : Number.fitsInt64 n.toInt = true :=
    (Number.fitsInt64_iff n.toInt).mpr ⟨n.le_toInt, n.toInt_lt⟩
  rw [int64?, if_pos hfits, Int64.ofInt_toInt]

namespace Lenient

theorem number_ofBinary64 {x : Binary64} (hx : x.isFinite) :
    number (Value.ofBinary64 x) = x.foldZero := by
  have hnumeral : ∀ n : Numeral, n.toBinary64 = x.foldZero → number (.number n) = x.foldZero := by
    intro n hn
    have hfinite : x.foldZero.isFinite := by
      rw [Binary64.foldZero]
      split_ifs
      · decide +kernel
      · exact hx
    simp only [number, hn, if_pos hfinite]
  rw [Value.ofBinary64]
  cases hn : x.wholeInt64? with
  | none =>
    have hnonzero : x.magnitude ≠ 0 := by
      intro hz
      rw [Binary64.wholeInt64?_of_zero hz] at hn
      cases hn
    refine hnumeral _ ?_
    rw [Binary64.foldZero, if_neg hnonzero, Numeral.toBinary64]
  | some n => exact hnumeral _ (Binary64.ofInt_of_wholeInt64? hn)

theorem int64_ofInt64 (n : Int64) : int64 (.ofInt64 n) = n := by
  simp only [int64, Value.ofInt64, Numeral.int64?_toInt, Option.getD_some]

theorem text?_string (s : String) : text? (.string s) = some s := rfl

theorem text?_optional (s : Option String) : text? ((s.map Value.string).getD .null) = s := by
  cases s <;> rfl

theorem flag?_optional (b : Option Bool) : flag? ((b.map Value.bool).getD .null) = b := by
  cases b <;> rfl

end Lenient

namespace Entry

variable {e : Entry} {depth : Nat}

theorem fields_get? (e : Entry) (key : Key) : e.fields.get? key.name = some (e.written key) := by
  cases key <;> rfl

def restored (e : Entry) : Entry :=
  { e with
    expiryTime := e.expiryTime.foldZero
    totalGB := e.totalGB.foldZero
    limitIp := e.limitIp.foldZero }

theorem ofFields_fields (h : e.WellFormed) : ofFields e.fields = e.restored := by
  simp only [ofFields, ofValues, fields_get?, Option.getD_some, written, Lenient.text?_string,
    Lenient.text?_optional, Lenient.flag?_optional, Lenient.int64_ofInt64,
    Lenient.number_ofBinary64 h.expiryTime, Lenient.number_ofBinary64 h.totalGB,
    Lenient.number_ofBinary64 h.limitIp, restored]

theorem restored_same (e : Entry) : e.restored.Same e :=
  ⟨rfl, rfl, rfl, rfl, rfl, rfl, rfl, rfl, Binary64.foldZero_foldZero _,
    Binary64.foldZero_foldZero _, rfl, Binary64.foldZero_foldZero _, rfl, rfl, rfl⟩

theorem WellFormed.fields (h : e.WellFormed) : ∀ f ∈ e.fields, f.2.WellFormed := by
  have hint : ∀ n : Int64, (Value.ofInt64 n).WellFormed := by
    intro n
    have hle := n.le_toInt
    have hlt := n.toInt_lt
    refine .number ?_
    rw [Numeral.WellFormed]
    omega
  exact forall_written .null .bool .string hint (Binary64.wellFormed_ofBinary64 h.expiryTime)
    (Binary64.wellFormed_ofBinary64 h.totalGB) (Binary64.wellFormed_ofBinary64 h.limitIp) h.tgId

theorem restorable_ofBinary64 {x : Binary64}
    (h : x.wholeInt64? = none → (Numeral.real x).ReadsBack) :
    (Value.ofBinary64 x).Restorable depth := by
  rw [Value.ofBinary64]
  cases hn : x.wholeInt64? with
  | none => exact .real (h hn)
  | some n => exact .whole n

theorem restorable_toValue (hexpiryTime : (Value.ofBinary64 e.expiryTime).Restorable depth)
    (htotalGB : (Value.ofBinary64 e.totalGB).Restorable depth)
    (hlimitIp : (Value.ofBinary64 e.limitIp).Restorable depth)
    (htgId : e.tgId.Restorable depth) : e.toValue.Restorable (depth + 1) :=
  .object (forall_written .null .bool .string (fun _ => .whole _) hexpiryTime htotalGB hlimitIp
    htgId)

theorem names_distinct : (Key.all.map Key.name).Pairwise (· ≠ ·) := by decide

theorem Key.name_mem (key : Key) : key.name ∈ Key.all.map Key.name := by
  cases key <;> decide

/-- An entry is made of the fields that it knows. -/
theorem ofFields_known (fields : Fields) :
    ofFields (fields.filter fun f => f.1 ∈ Key.all.map Key.name) = ofFields fields := by
  have hsame : ∀ key : Key,
      Fields.get? (fields.filter fun f => f.1 ∈ Key.all.map Key.name) key.name =
        fields.get? key.name := by
    intro key
    rw [Fields.get?_filter fun name => decide (name ∈ Key.all.map Key.name)]
    exact if_pos (decide_eq_true key.name_mem)
  simp only [ofFields, hsame]

/-- The text of an object is read as the entry that the object is decoded to. -/
theorem readsAs_reader_object {fields : Fields} (hkeys : fields.Pairwise fun f g => f.1 ≠ g.1)
    (hvalues : ∀ f ∈ fields, f.2.WellFormed) (h : ∀ f ∈ fields, f.2.Restorable depth) :
    ReadsAs (reader (depth + 1)) (.object fields) (ofFields fields) := by
  intro rest hrest
  have hrecord := Json.readsAs_readRecord_values "struct ClientEntry" (Key.all.map Key.name) hkeys
    hvalues h hrest
  refine Json.bind_eq_ok.mpr ⟨_, hrecord, ?_⟩
  dsimp only
  rw [ofFields_known]

theorem readsAs_reader (h : e.WellFormed) (hlimits : e.toValue.Restorable depth) :
    ReadsAs (reader depth) e.toValue e.restored := by
  rw [toValue_eq] at hlimits ⊢
  cases hlimits with
  | @object depth _ hvalues =>
    have hkeys : e.fields.Pairwise fun f g => f.1 ≠ g.1 :=
      List.pairwise_map.mpr (List.pairwise_map.mp names_distinct)
    rw [← ofFields_fields h]
    exact readsAs_reader_object hkeys h.fields hvalues

def Decoded (e : Entry) : Prop := ∃ v : Value, v.WellFormed ∧ ofValue? v = .ok e

theorem Decoded.wellFormed (h : e.Decoded) : e.WellFormed := by
  obtain ⟨v, hv, he⟩ := h
  exact wellFormed_of_ofValue? hv he

/-- What is written of the entry is read as the same entry, of which the same is written. -/
structure Recovered (e f : Entry) : Prop where
  read : read e.canonical = .ok f
  same : f.Same e
  canonical : f.canonical = e.canonical

theorem recovered_restored (h : e.WellFormed) (hlimits : e.toValue.Restorable Json.maxDepth) :
    e.Recovered e.restored where
  read := Json.readWholeText_print (readsAs_reader h hlimits)
  same := e.restored_same
  canonical := by rw [Entry.canonical, toValue_eq_iff.mpr e.restored_same, Entry.canonical]

end Entry

namespace Snapshot

variable {entries : List Entry}

def listed (entries : List Entry) : Value := .array (entries.map Entry.toValue)

theorem readAll_listed (h : ∀ e ∈ entries, e.WellFormed)
    (hlimits : (listed entries).Restorable Json.maxDepth) :
    Entry.readAll (listed entries).print = .ok (entries.map Entry.restored) := by
  rw [listed, Json.maxDepth] at hlimits
  cases hlimits with
  | array hitems =>
    refine Json.readWholeText_print (Json.readsAs_readSequence (fun e he => ?_) fun e he => ?_)
    · exact (h e he).finite.toValue
    · exact Entry.readsAs_reader (h e he) (hitems _ (List.mem_map_of_mem he))

theorem same_restored (entries : List Entry) :
    List.Forall₂ Entry.Same (entries.map Entry.restored) entries := by
  rw [List.forall₂_map_left_iff, List.forall₂_same]
  exact fun e _ => e.restored_same

structure Recovered (entries restored : List Entry) : Prop where
  read : Entry.readAll (listed entries).print = .ok restored
  same : List.Forall₂ Entry.Same restored entries
  fingerprint : fingerprint restored = fingerprint entries

theorem recovered_restored (h : ∀ e ∈ entries, e.WellFormed)
    (hlimits : (listed entries).Restorable Json.maxDepth) :
    Recovered entries (entries.map Entry.restored) where
  read := readAll_listed h hlimits
  same := same_restored entries
  fingerprint := by
    rw [Snapshot.fingerprint, canonicalText_of_same (same_restored entries), Snapshot.fingerprint]

/-- A snapshot that was read can be saved and read again. -/
theorem recovered_of_readAll {text : String} (h : Entry.readAll text = .ok entries)
    (hlimits : (listed entries).Restorable Json.maxDepth) :
    Recovered entries (entries.map Entry.restored) :=
  recovered_restored (Entry.wellFormed_of_readAll h) hlimits

end Snapshot

/-- Entries that were decoded are lost neither one by one nor as a list. -/
theorem saved_entries_recovered :
    (∀ fields : Fields, (Value.object fields).WellFormed →
      ∃ e, Entry.ofValue? (.object fields) = .ok e ∧
        (e.toValue.Restorable Json.maxDepth → ∃ f, e.Recovered f)) ∧
    ∀ entries : List Entry, (∀ e ∈ entries, e.Decoded) →
      (Snapshot.listed entries).Restorable Json.maxDepth →
        ∃ restored, Snapshot.Recovered entries restored := by
  constructor
  · intro fields hfields
    have hdecoded : Entry.ofValue? (.object fields) = .ok (Entry.ofFields fields) := rfl
    have hwell := Entry.wellFormed_of_ofValue? hfields hdecoded
    exact ⟨_, hdecoded, fun hlimits => ⟨_, Entry.recovered_restored hwell hlimits⟩⟩
  · intro entries hdecoded hlimits
    have hwell : ∀ e ∈ entries, e.WellFormed := fun e he => (hdecoded e he).wellFormed
    exact ⟨_, Snapshot.recovered_restored hwell hlimits⟩

def coercedFields : Fields :=
  [("email", .number (.whole 5)), ("enable", .string "0"), ("expiryTime", .string "-0"),
   ("limitIp", .number (.real (Number.Decimal.nearest false ⟨15, -1⟩))),
   ("tgId", .array [.null, .object [("a", .number (.real Binary64.zero.neg))]])]

theorem wellFormed_coercedFields : (Value.object coercedFields).WellFormed := by
  have hobject : (Value.object [("a", .number (.real Binary64.zero.neg))]).WellFormed :=
    .object (List.pairwise_singleton _ _)
      (List.forall_mem_singleton.mpr (.number (by decide +kernel)))
  refine .object (by decide) ?_
  simp only [coercedFields, List.forall_mem_cons]
  exact ⟨.number (by decide), .string _, .string _, .number (by decide +kernel),
    .array (List.forall_mem_cons.mpr ⟨.null, List.forall_mem_singleton.mpr hobject⟩),
    List.forall_mem_nil _⟩

theorem restorable_coercedFields (depth : Nat) :
    (Entry.ofFields coercedFields).toValue.Restorable (depth + 3) := by
  have hlimitIp : (Numeral.real (Entry.ofFields coercedFields).limitIp).ReadsBack := by
    have hwell : (Numeral.real (Entry.ofFields coercedFields).limitIp).WellFormed := by
      decide +kernel
    rw [Numeral.readsBack_iff hwell.finite]
    exact Json.readScalar_digits (by decide +kernel) (by decide +kernel)
  have hzero : (Numeral.real Binary64.zero.neg).ReadsBack := by
    have hwell : (Numeral.real Binary64.zero.neg).WellFormed := by decide +kernel
    have hchars : (Numeral.real Binary64.zero.neg).chars = ['-', '0', '.', '0'] := by
      decide +kernel
    rw [Numeral.readsBack_iff hwell.finite, hchars]
    exact Json.readScalar_minus (by decide +kernel)
  have hobject : (Value.object [("a", .number (.real Binary64.zero.neg))]).Restorable (depth + 1) :=
    .object (List.forall_mem_singleton.mpr (.real hzero))
  refine Entry.restorable_toValue (Entry.restorable_ofBinary64 fun h => ?_)
    (Entry.restorable_ofBinary64 fun h => ?_) (Entry.restorable_ofBinary64 fun _ => hlimitIp) ?_
  · exact absurd h (by decide +kernel)
  · exact absurd h (by decide +kernel)
  · exact .array (List.forall_mem_cons.mpr ⟨.null, List.forall_mem_singleton.mpr hobject⟩)

/-- What is decoded from these fields comes back from its text, and twice over from a list. -/
theorem recovered_coercedFields :
    (Value.object coercedFields).WellFormed ∧
      ∃ e, Entry.ofValue? (.object coercedFields) = .ok e ∧ (∃ f, e.Recovered f) ∧
        e.Decoded ∧ ∃ restored, Snapshot.Recovered [e, e] restored := by
  have hdecoded : (Entry.ofFields coercedFields).Decoded := ⟨_, wellFormed_coercedFields, rfl⟩
  have hlisted : (Snapshot.listed [Entry.ofFields coercedFields,
      Entry.ofFields coercedFields]).Restorable Json.maxDepth :=
    .array (List.forall_mem_cons.mpr ⟨restorable_coercedFields 123,
      List.forall_mem_singleton.mpr (restorable_coercedFields 123)⟩)
  obtain ⟨e, he, hone⟩ := saved_entries_recovered.1 coercedFields wellFormed_coercedFields
  cases he
  refine ⟨wellFormed_coercedFields, _, rfl, hone (restorable_coercedFields 124), hdecoded, ?_⟩
  refine saved_entries_recovered.2 _ ?_ hlisted
  simpa using hdecoded

end FleetDrift
