import FleetDrift.Proofs.PrintedNumbers

/-!
# Values that are read back from their text

Items of a list and fields of an object are read one after another, each up to the comma or bracket
behind it. A value comes back if its keys are in order, its brackets not too deep, and its real
numbers come back.
-/

namespace FleetDrift.Json

variable {α β σ : Type} {v : Value} {rest : List Char}

theorem ended_itemsTail (vs : List Value) (rest : List Char) :
    Ended (itemsTail vs ++ ']' :: rest) := by
  cases vs with
  | nil => exact ended_cons (by decide) rest
  | cons v vs => exact ended_cons (by decide) _

theorem ended_fieldsTail (fields : Fields) (rest : List Char) :
    Ended (fieldsTail fields ++ '\x7d' :: rest) := by
  cases fields with
  | nil => exact ended_cons (by decide) rest
  | cons f fields => exact ended_cons (by decide) _

theorem Value.exists_first (hv : v.Finite) :
    ∃ c cs, v.chars = c :: cs ∧ isSpace c = false ∧ c ≠ ']' := by
  obtain ⟨c, cs, hc, hlead⟩ := v.exists_lead hv
  refine ⟨c, cs, hc, ?_, ?_⟩
  · rw [Bool.eq_false_iff]
    intro hspace
    rcases isSpace_iff.mp hspace with rfl | rfl | rfl | rfl <;> cases hlead
  · rintro rfl
    cases hlead

def ReadsAs (reader : Reader α) (v : Value) (x : α) : Prop :=
  ∀ ⦃rest⦄, Ended rest → reader (v.chars ++ rest) = .ok (x, rest)

theorem readWholeText_print {reader : Reader α} {x : α} (h : ReadsAs reader v x) :
    readWholeText reader v.print = .ok x := by
  have hread := h ended_nil
  rw [List.append_nil] at hread
  refine readWholeText_eq_ok_iff.mpr ⟨[], ?_, List.forall_mem_nil _⟩
  rw [Value.print, String.toList_ofList, hread]

variable {item : Reader α} {write : β → Value} {out : β → α}

theorem readItems_tail {bs : List β} (hfinite : ∀ b ∈ bs, (write b).Finite)
    (hitem : ∀ b ∈ bs, ReadsAs item (write b) (out b)) {fuel : List Char}
    (hfuel : bs.length < fuel.length) (rest : List Char) :
    readItems item fuel false (itemsTail (bs.map write) ++ ']' :: rest) =
      .ok (bs.map out, rest) := by
  -- the fuel lasts for one step an item and one for the bracket
  induction bs generalizing fuel with
  | nil =>
    obtain ⟨f, fuel, rfl⟩ := List.exists_cons_of_length_pos hfuel
    rfl
  | cons b bs ih =>
    obtain ⟨f, fuel, rfl⟩ := List.exists_cons_of_length_pos (Nat.zero_lt_of_lt hfuel)
    have hmore := ih (fun c hc => hfinite c (List.mem_cons_of_mem b hc))
      (fun c hc => hitem c (List.mem_cons_of_mem b hc)) (Nat.lt_of_succ_lt_succ hfuel)
    have hread := hitem b List.mem_cons_self (ended_itemsTail (bs.map write) rest)
    obtain ⟨c, cs, hc, hspace, hclose⟩ := (write b).exists_first (hfinite b List.mem_cons_self)
    rw [List.map_cons, itemsTail, itemsChars_cons, List.cons_append, List.append_assoc]
    rw [hc, List.cons_append] at hread ⊢
    have hcomma : isSpace ',' = false := by decide
    simp only [readItems, skipSpaces_cons hcomma, skipSpaces_cons hspace, hread, hmore, bind,
      Except.bind, if_neg hclose, Char.reduceEq, if_false, Bool.false_eq_true, if_true,
      List.map_cons]

theorem length_itemsChars_le (vs : List Value) : (itemsChars vs).length ≤ (itemsTail vs).length := by
  cases vs with
  | nil => exact Nat.le_refl 0
  | cons v vs => exact Nat.le_succ _

theorem length_le_itemsChars {vs : List Value} (hfinite : ∀ v ∈ vs, v.Finite) :
    vs.length ≤ (itemsChars vs).length := by
  induction vs with
  | nil => exact Nat.le_refl 0
  | cons v vs ih =>
    have hmore := ih fun w hw => hfinite w (List.mem_cons_of_mem v hw)
    obtain ⟨c, cs, hc, -⟩ := v.exists_first (hfinite v List.mem_cons_self)
    have htail := length_itemsChars_le vs
    rw [itemsChars_cons, hc, List.length_append, List.length_cons, List.length_cons]
    omega

theorem readList_items {bs : List β} (hfinite : ∀ b ∈ bs, (write b).Finite)
    (hitem : ∀ b ∈ bs, ReadsAs item (write b) (out b)) (rest : List Char) :
    readList item (itemsChars (bs.map write) ++ ']' :: rest) = .ok (bs.map out, rest) := by
  rcases bs with _ | ⟨b, bs⟩
  · rfl
  · have hlength := length_le_itemsChars (List.forall_mem_map.mpr hfinite)
    have hfuel : bs.length < (itemsChars ((b :: bs).map write) ++ ']' :: rest).length := by
      simp only [List.length_map, List.length_cons, List.length_append] at hlength ⊢
      omega
    have hmore := readItems_tail (fun c hc => hfinite c (List.mem_cons_of_mem b hc))
      (fun c hc => hitem c (List.mem_cons_of_mem b hc)) hfuel rest
    have hread := hitem b List.mem_cons_self (ended_itemsTail (bs.map write) rest)
    obtain ⟨c, cs, hc, hspace, hclose⟩ := (write b).exists_first (hfinite b List.mem_cons_self)
    rw [List.map_cons, itemsChars_cons, List.append_assoc] at hmore ⊢
    rw [hc, List.cons_append] at hread hmore ⊢
    rw [readList, readItems, skipSpaces_cons hspace]
    simp only [hread, hmore, bind, Except.bind, if_neg hclose, if_true, List.map_cons]

/-- What the member reader makes of a state and a field, from the text after the key's quote. -/
def Works (member : σ → Reader σ) (s : σ) (f : String × Value) (result : Except Fault σ) : Prop :=
  ∀ ⦃rest⦄, Ended rest →
    (member s (f.1.toList.flatMap escapeChar ++ '"' :: ':' :: (f.2.chars ++ rest))).mapError
      Stop.fault = result.map (·, rest)

variable {member : σ → Reader σ} {next : σ → String × Value → Except Fault σ} {fields : Fields}

theorem readMembers_tail (hmember : ∀ s, ∀ f ∈ fields, Works member s f (next s f))
    {fuel : List Char} (hfuel : fields.length < fuel.length) (s : σ) (rest : List Char) :
    (readMembers member fuel false s (fieldsTail fields ++ '\x7d' :: rest)).mapError Stop.fault =
      (fields.foldlM next s).map (·, rest) := by
  -- the fuel lasts for one step a field and one for the brace
  induction fields generalizing fuel s with
  | nil =>
    obtain ⟨_, fuel, rfl⟩ := List.exists_cons_of_length_pos hfuel
    rfl
  | cons f fields ih =>
    obtain ⟨_, fuel, rfl⟩ := List.exists_cons_of_length_pos (Nat.zero_lt_of_lt hfuel)
    obtain ⟨key, v⟩ := f
    have hmore := ih (fun s g hg => hmember s g (List.mem_cons_of_mem _ hg))
      (Nat.lt_of_succ_lt_succ hfuel)
    have hread := hmember s (key, v) List.mem_cons_self (ended_fieldsTail fields rest)
    have hcomma : isSpace ',' = false := by decide
    have hquote : isSpace '"' = false := by decide
    rw [fieldsTail, fieldsChars_cons, stringChars, List.foldlM_cons]
    simp only [List.cons_append, List.append_assoc, List.nil_append] at hread ⊢
    simp only [readMembers, skipSpaces_cons hcomma, skipSpaces_cons hquote, Char.reduceEq, if_false,
      Bool.false_eq_true, if_true, mapError_bind, hread]
    cases next s (key, v) with
    | error fault => rfl
    | ok t => exact hmore t

theorem length_fieldsChars_le (fields : Fields) :
    (fieldsChars fields).length ≤ (fieldsTail fields).length := by
  cases fields with
  | nil => exact Nat.le_refl 0
  | cons f fields => exact Nat.le_succ _

theorem length_le_fieldsChars (fields : Fields) : fields.length ≤ (fieldsChars fields).length := by
  induction fields with
  | nil => exact Nat.le_refl 0
  | cons f fields ih =>
    obtain ⟨key, v⟩ := f
    have htail := length_fieldsChars_le fields
    rw [fieldsChars_cons]
    simp only [List.length_append, List.length_cons]
    omega

/-- The fields of an object are worked into the state one by one, up to the first fault. -/
theorem readObject_fields (hmember : ∀ s, ∀ f ∈ fields, Works member s f (next s f)) (s : σ)
    (rest : List Char) :
    (readObject member s (fieldsChars fields ++ '\x7d' :: rest)).mapError Stop.fault =
      (fields.foldlM next s).map (·, rest) := by
  rcases fields with _ | ⟨⟨key, v⟩, fields⟩
  · rfl
  · have hlength := length_le_fieldsChars ((key, v) :: fields)
    have hfuel : fields.length < (fieldsChars ((key, v) :: fields) ++ '\x7d' :: rest).length := by
      simp only [List.length_cons, List.length_append] at hlength ⊢
      omega
    have hmore := readMembers_tail (fun s f hf => hmember s f (List.mem_cons_of_mem _ hf)) hfuel
    have hread := hmember s (key, v) List.mem_cons_self (ended_fieldsTail fields rest)
    have hquote : isSpace '"' = false := by decide
    rw [fieldsChars_cons, stringChars] at hmore ⊢
    rw [List.foldlM_cons]
    simp only [List.cons_append, List.append_assoc, List.nil_append] at hread hmore ⊢
    rw [readObject, readMembers, skipSpaces_cons hquote]
    simp only [Char.reduceEq, if_false, if_true, mapError_bind, hread]
    cases next s (key, v) with
    | error fault => rfl
    | ok t => exact hmore t rest

theorem Fields.insert_last {fields : Fields} {key : String} (h : ∀ f ∈ fields, f.1 < key)
    (v : Value) : fields.insert key v = fields ++ [(key, v)] := by
  induction fields with
  | nil => rfl
  | cons f fields ih =>
    obtain ⟨k, w⟩ := f
    have hlt : k < key := h (k, w) List.mem_cons_self
    have hne : key ≠ k := by
      rintro rfl
      exact String.lt_irrefl key hlt
    rw [Fields.insert, if_neg (String.lt_asymm hlt), if_neg hne,
      ih fun f hf => h f (List.mem_cons_of_mem _ hf), List.cons_append]

theorem readColon_cons (cs : List Char) : readColon (':' :: cs) = .ok cs := by
  have hcolon : isSpace ':' = false := by decide
  rw [readColon, skipSpaces_cons hcolon]
  simp only [if_true]

theorem works_readMember {value : Reader Value} {done : Fields} {f : String × Value}
    (hvalue : ReadsAs value f.2 f.2) :
    Works (readMember value) done f (.ok (done.insert f.1 f.2)) := by
  intro rest hrest
  rw [Except.map, mapError_eq_ok]
  refine bind_eq_ok.mpr ⟨_, readString_escaped f.1 _, bind_eq_ok.mpr ⟨_, readColon_cons _, ?_⟩⟩
  exact bind_eq_ok.mpr ⟨_, hvalue hrest, rfl⟩

theorem Fields.foldlM_insert (done : Fields) {fields : Fields} (h : (done ++ fields).Ascending) :
    fields.foldlM (fun done f => (.ok (done.insert f.1 f.2) : Except Fault Fields)) done =
      .ok (done ++ fields) := by
  induction fields generalizing done with
  | nil =>
    rw [List.append_nil]
    rfl
  | cons f fields ih =>
    have hkeys : ∀ g ∈ done, g.1 < f.1 := by
      rw [Ascending, List.pairwise_append] at h
      exact fun g hg => h.2.2 g hg f List.mem_cons_self
    rw [List.append_cons] at h ⊢
    rw [List.foldlM_cons, Fields.insert_last hkeys]
    exact ih _ h

/-- At most `depth` levels of brackets, and only real numbers that read back. -/
inductive Value.Restorable : Nat → Value → Prop
  | null {depth : Nat} : Restorable depth .null
  | bool {depth : Nat} (b : Bool) : Restorable depth (.bool b)
  | whole {depth : Nat} (n : Int) : Restorable depth (.number (.whole n))
  | real {depth : Nat} {x : Number.Binary64} (h : (Numeral.real x).ReadsBack) :
    Restorable depth (.number (.real x))
  | string {depth : Nat} (s : String) : Restorable depth (.string s)
  | array {depth : Nat} {items : List Value} (h : ∀ v ∈ items, Restorable depth v) :
    Restorable (depth + 1) (.array items)
  | object {depth : Nat} {fields : Fields} (h : ∀ f ∈ fields, Restorable depth f.2) :
    Restorable (depth + 1) (.object fields)

theorem Value.readsAs_readValue {depth : Nat} (hv : v.WellFormed) (h : v.Restorable depth) :
    ReadsAs (readValue depth) v v := by
  -- each level of brackets leaves one level less to what is within
  induction h with
  | null =>
    intro rest _
    rw [Value.chars, List.cons_append, readValue_cons _ (by decide) (by decide) (by decide)]
    rfl
  | bool b =>
    intro rest _
    cases b
    · rw [Value.chars, boolChars, if_neg Bool.false_ne_true, List.cons_append,
        readValue_cons _ (by decide) (by decide) (by decide)]
      rfl
    · rw [Value.chars, boolChars, if_pos rfl, List.cons_append,
        readValue_cons _ (by decide) (by decide) (by decide)]
      rfl
  | whole n =>
    intro rest hrest
    cases hv with
    | number hn => exact readValue_readsBack _ hn.finite (Numeral.readsBack_whole hn) hrest
  | real hx =>
    intro rest hrest
    cases hv with
    | number hn => exact readValue_readsBack _ hn.finite hx hrest
  | string s =>
    intro rest _
    rw [Value.chars, stringChars, List.cons_append, List.cons_append,
      readValue_cons _ (by decide) (by decide) (by decide), List.append_assoc]
    exact bind_eq_ok.mpr ⟨_, readString_escaped s rest, rfl⟩
  | @array depth items _ ih =>
    intro rest _
    cases hv with
    | array hitems =>
      have hread := readList_items (fun v hv => (hitems v hv).finite)
        (fun v hv => ih v hv (hitems v hv)) rest
      simp only [List.map_id_fun', id_eq] at hread
      rw [Value.chars, List.cons_append, List.cons_append, List.append_assoc, readValue,
        skipSpaces_cons (by decide)]
      simp only [if_true]
      exact bind_eq_ok.mpr ⟨_, hread, rfl⟩
  | @object depth fields _ ih =>
    intro rest _
    cases hv with
    | object hkeys hvalues =>
      have hmember : ∀ done, ∀ f ∈ fields,
          Works (readMember (readValue depth)) done f (.ok (done.insert f.1 f.2)) :=
        fun done f hf => works_readMember (ih f hf (hvalues f hf))
      have hread := readObject_fields hmember [] rest
      rw [Fields.foldlM_insert [] hkeys, Except.map, mapError_eq_ok, List.nil_append] at hread
      rw [Value.chars, List.cons_append, List.cons_append, List.append_assoc, readValue,
        skipSpaces_cons (by decide)]
      simp only [Char.reduceEq, if_false, if_true]
      exact bind_eq_ok.mpr ⟨_, hread, rfl⟩

/-- A value that can be restored is what its text is read as. -/
theorem Value.read_print (hv : v.WellFormed) (h : v.Restorable maxDepth) :
    Value.read v.print = .ok v :=
  readWholeText_print (readsAs_readValue hv h)

theorem readsAs_readSequence {item : Nat → Reader α} {bs : List β} {depth : Nat}
    (hfinite : ∀ b ∈ bs, (write b).Finite)
    (hitem : ∀ b ∈ bs, ReadsAs (item depth) (write b) (out b)) :
    ReadsAs (readSequence item (depth + 1)) (.array (bs.map write)) (bs.map out) := by
  intro rest _
  rw [Value.chars, List.cons_append, List.cons_append, List.append_assoc, readSequence,
    skipSpaces_cons (by decide)]
  exact readList_items hfinite hitem rest

theorem readsAs_readSequence_values {vs : List Value} {depth : Nat}
    (hvs : ∀ v ∈ vs, v.WellFormed) (h : ∀ v ∈ vs, v.Restorable depth) :
    ReadsAs (readSequence readValue (depth + 1)) (.array vs) vs := by
  have hvalues : ∀ v ∈ vs, ReadsAs (readValue depth) (id v) (id v) := by
    intro v hv
    exact Value.readsAs_readValue (hvs v hv) (h v hv)
  have hlist : ReadsAs (readSequence readValue (depth + 1)) (.array (vs.map id)) (vs.map id) :=
    readsAs_readSequence (fun v hv => (hvs v hv).finite) hvalues
  rwa [List.map_id] at hlist

end FleetDrift.Json
