import FleetDrift.Json.Record
import FleetDrift.Proofs.PrintedValues

/-!
# Records that are read from their text

A value that nobody wants is passed over up to where its text ends. So a record takes from the text
of an object what is read of the fields it knows, whatever stands in the others.
-/

namespace FleetDrift.Json

variable {α : Type} {v : Value} {rest : List Char}

theorem skipEscape_control {c : Char} (h : c.toNat < 0x20) (rest : List Char) :
    skipEscape ('u' :: '0' :: '0' :: Nat.digitChar (c.toNat / 16) :: Nat.digitChar (c.toNat % 16) ::
      rest) = .ok rest := by
  have hshort : (shortEscape? 'u').isSome = false := by decide
  rw [skipEscape, hshort, if_neg Bool.false_ne_true, if_pos rfl, readHex_control h]
  rfl

/-- Whatever is written for a character, an escape is passed over as a whole. -/
theorem skipEscape_escapeChar (c : Char) :
    (escapeChar c = [c] ∧ c ≠ '"' ∧ c ≠ '\\' ∧ ¬ c.toNat < 0x20) ∨
      ∃ e, escapeChar c = '\\' :: e ∧ ∀ rest, skipEscape (e ++ rest) = .ok rest := by
  unfold escapeChar
  split
  · exact .inr ⟨['"'], rfl, fun _ => rfl⟩
  · exact .inr ⟨['\\'], rfl, fun _ => rfl⟩
  · exact .inr ⟨['b'], rfl, fun _ => rfl⟩
  · exact .inr ⟨['f'], rfl, fun _ => rfl⟩
  · exact .inr ⟨['n'], rfl, fun _ => rfl⟩
  · exact .inr ⟨['r'], rfl, fun _ => rfl⟩
  · exact .inr ⟨['t'], rfl, fun _ => rfl⟩
  · next hquote hbackslash _ _ _ _ _ =>
    split_ifs with hcontrol
    · exact .inr ⟨_, rfl, skipEscape_control hcontrol⟩
    · exact .inl ⟨rfl, hquote, hbackslash, hcontrol⟩

theorem skipStringFrom_escaped (cs rest fuel : List Char) (h : cs.length < fuel.length) :
    skipStringFrom fuel (cs.flatMap escapeChar ++ '"' :: rest) = .ok rest := by
  induction cs generalizing fuel with
  | nil =>
    obtain ⟨f, fuel, rfl⟩ := List.exists_cons_of_length_pos h
    simp [skipStringFrom]
  | cons c cs ih =>
    obtain ⟨f, fuel, rfl⟩ := List.exists_cons_of_length_pos (Nat.zero_lt_of_lt h)
    have hnext := ih fuel (Nat.lt_of_succ_lt_succ h)
    rw [List.flatMap_cons, List.append_assoc]
    rcases skipEscape_escapeChar c with ⟨heq, hquote, hbackslash, hcontrol⟩ | ⟨e, heq, hskip⟩
    · rw [heq, List.singleton_append, skipStringFrom, if_neg hquote, if_neg hbackslash,
        if_neg hcontrol, hnext]
    · rw [heq, List.cons_append, skipStringFrom, if_neg (by decide), if_pos rfl, hskip]
      exact hnext

theorem skipString_escaped (s : String) (rest : List Char) :
    skipString (s.toList.flatMap escapeChar ++ '"' :: rest) = .ok rest := by
  refine skipStringFrom_escaped _ _ _ ?_
  have hle := length_le_escaped s.toList
  simp only [List.length_cons, List.length_append]
  omega

/-- The places after a point, if a point follows. -/
def skipFraction : List Char → Except Stop (List Char)
  | [] => .ok []
  | c :: rest => if c = '.' then skipDigits rest else .ok (c :: rest)

def skipExponent (cs : List Char) : Except Stop (List Char) :=
  match cs with
  | c :: more => if c = 'e' ∨ c = 'E' then skipDigits (readSign more).2 else .ok cs
  | [] => .ok []

def skipMarks (cs : List Char) : Except Stop (List Char) := skipFraction cs >>= skipExponent

theorem skipMarks_eq (cs : List Char) :
    (match cs with
      | '.' :: rest => skipDigits rest >>= skipExponent
      | _ => .ok cs >>= skipExponent) = skipMarks cs := by
  rcases cs with _ | ⟨c, cs⟩
  · rfl
  · by_cases hc : c = '.'
    · subst hc
      rfl
    · rw [skipMarks, skipFraction, if_neg hc]
      split
      · next heq => exact absurd (List.cons.inj heq).1 hc
      · rfl

theorem skipNumeral_zero {d : Char} (hd : d.isDigit = false) (rest : List Char) :
    skipNumeral ('0' :: d :: rest) = skipMarks (d :: rest) := by
  rw [skipNumeral, hd, ← skipMarks_eq]
  rfl

theorem skipNumeral_of_ne {cs : List Char} (h : ∀ d rest, cs ≠ '0' :: d :: rest) :
    skipNumeral cs = skipDigits cs >>= skipMarks := by
  rw [skipNumeral, ← funext skipMarks_eq]
  · rfl
  · exact h

theorem skipDigits_of_readDigits {cs ds left : List Char} (h : readDigits cs = .ok (ds, left)) :
    skipDigits cs = .ok left := by
  rcases cs with _ | ⟨c, cs⟩
  · cases h
  · rw [readDigits] at h
    split_ifs at h with hc
    · cases h
      rw [skipDigits, if_pos hc, List.dropWhile_cons_of_pos hc]
    · cases h

theorem skipNumeral_of_readWhole {cs ds left : List Char} (h : readWhole cs = .ok (ds, left)) :
    skipNumeral cs = skipMarks left := by
  rcases cs with _ | ⟨c, cs⟩
  · cases h
  · by_cases hzero : c = '0'
    · subst hzero
      rcases cs with _ | ⟨d, cs⟩
      · cases h
        rfl
      · simp only [readWhole, if_true] at h
        split_ifs at h with hd
        · cases h
        · cases h
          exact skipNumeral_zero (Bool.eq_false_of_not_eq_true hd) cs
    · simp only [readWhole, if_neg hzero] at h
      split_ifs at h with hc
      · cases h
        have hne : ∀ d rest, c :: cs ≠ '0' :: d :: rest :=
          fun d rest heq => hzero (List.cons.inj heq).1
        rw [skipNumeral_of_ne hne, skipDigits, if_pos hc, List.dropWhile_cons_of_pos hc]
        rfl
      · cases h

theorem skipFraction_of_readFraction {cs left : List Char} {fraction : Option (List Char)}
    (h : readFraction cs = .ok (fraction, left)) : skipFraction cs = .ok left := by
  rcases cs with _ | ⟨c, cs⟩
  · cases h
    rfl
  · by_cases hc : c = '.'
    · subst hc
      obtain ⟨⟨ds, more⟩, hds, h⟩ := bind_eq_ok.mp h
      cases h
      exact skipDigits_of_readDigits hds
    · have hne : ∀ d ∈ (c :: cs).head?, d ≠ '.' := fun d hd => Option.mem_some.mp hd ▸ hc
      rw [readFraction_of_ne hne] at h
      cases h
      exact if_neg hc

theorem skipExponent_of_readExponent {cs left : List Char}
    {exponent : Option (Bool × List Char)} (h : readExponent cs = .ok (exponent, left)) :
    skipExponent cs = .ok left := by
  rcases cs with _ | ⟨c, cs⟩
  · cases h
    rfl
  · rw [readExponent] at h
    rw [skipExponent]
    split_ifs at h ⊢
    · obtain ⟨⟨ds, more⟩, hds, h⟩ := bind_eq_ok.mp h
      cases h
      exact skipDigits_of_readDigits hds
    · cases h
      rfl

theorem rest_of_realNumeral {negative : Bool} {whole left : List Char}
    {fraction : Option (List Char)} {exponent : Option (Bool × List Char)} {n : Numeral}
    (h : realNumeral negative whole fraction exponent rest = .ok (n, left)) : rest = left := by
  simp only [realNumeral] at h
  split at h
  · cases h
  · split at h
    · cases h
      rfl
    · cases h

/-- A number that can be read is passed over up to where its reading ends. -/
theorem skipNumeral_of_readNumeral {negative : Bool} {cs left : List Char} {n : Numeral}
    (h : readNumeral negative cs = .ok (n, left)) : skipNumeral cs = .ok left := by
  obtain ⟨⟨whole, more⟩, hwhole, h⟩ := bind_eq_ok.mp h
  obtain ⟨⟨fraction, more'⟩, hfraction, h⟩ := bind_eq_ok.mp h
  obtain ⟨⟨exponent, last⟩, hexponent, h⟩ := bind_eq_ok.mp h
  have hlast : last = left := by
    dsimp only at h
    split_ifs at h
    · exact rest_of_realNumeral h
    · cases h
      rfl
    · exact rest_of_realNumeral h
    · cases h
      rfl
    · exact rest_of_realNumeral h
  rw [skipNumeral_of_readWhole hwhole, ← hlast]
  exact bind_eq_ok.mpr
    ⟨_, skipFraction_of_readFraction hfraction, skipExponent_of_readExponent hexponent⟩

theorem skipScalar_of_readScalar {cs left : List Char} {n : Numeral}
    (h : readScalar cs = .ok (.number n, left)) : skipScalar cs = .ok left := by
  rcases cs with _ | ⟨c, cs⟩
  · cases h
  · unfold readScalar at h
    unfold skipScalar
    dsimp only at h ⊢
    split_ifs at h ⊢
    · obtain ⟨more, -, h⟩ := bind_eq_ok.mp h
      cases h
    · obtain ⟨more, -, h⟩ := bind_eq_ok.mp h
      cases h
    · obtain ⟨more, -, h⟩ := bind_eq_ok.mp h
      cases h
    · obtain ⟨⟨m, more⟩, hm, h⟩ := bind_eq_ok.mp h
      cases h
      exact skipNumeral_of_readNumeral hm
    · obtain ⟨⟨m, more⟩, hm, h⟩ := bind_eq_ok.mp h
      cases h
      exact skipNumeral_of_readNumeral hm
    · obtain ⟨⟨s, more⟩, -, h⟩ := bind_eq_ok.mp h
      cases h
    · cases h

theorem skipValue_cons (levels : List Char) {c : Char} {cs : List Char} (hspace : isSpace c = false)
    (hlist : c ≠ '[') (hobject : c ≠ '\x7b') :
    skipValue levels (c :: cs) = (skipScalar (c :: cs)).map fun rest => ((), rest) := by
  cases levels with
  | nil =>
    rw [skipValue, skipSpaces_cons hspace]
    simp only [if_neg hlist, if_neg hobject]
  | cons level levels =>
    rw [skipValue, skipSpaces_cons hspace]
    simp only [if_neg hlist, if_neg hobject]

theorem length_chars_le_itemsChars {vs : List Value} (h : v ∈ vs) :
    v.chars.length ≤ (itemsChars vs).length := by
  induction vs with
  | nil => cases h
  | cons w vs ih =>
    have htail := length_itemsChars_le vs
    rw [itemsChars_cons, List.length_append]
    rcases List.mem_cons.mp h with rfl | h
    · exact Nat.le_add_right _ _
    · exact (ih h).trans (htail.trans (Nat.le_add_left _ _))

theorem length_chars_le_fieldsChars {fields : Fields} {f : String × Value} (h : f ∈ fields) :
    f.2.chars.length ≤ (fieldsChars fields).length := by
  induction fields with
  | nil => cases h
  | cons g fields ih =>
    obtain ⟨key, w⟩ := g
    have htail := length_fieldsChars_le fields
    rw [fieldsChars_cons]
    simp only [List.length_append, List.length_cons]
    rcases List.mem_cons.mp h with rfl | h
    · dsimp only
      omega
    · have hmore := ih h
      omega

theorem skipValue_readsBack (levels : List Char) {n : Numeral} (hn : n.Finite) (h : n.ReadsBack)
    (hr : Ended rest) :
    skipValue levels ((Value.number n).chars ++ rest) = .ok ((), rest) := by
  have hread := (readScalar_append ((Numeral.readsBack_iff hn).mp h)).2 hr
  obtain ⟨c, cs, hc, hspace, hlist, hobject⟩ := n.exists_first hn
  rw [Value.chars]
  rw [hc, List.cons_append] at hread ⊢
  rw [skipValue_cons levels hspace hlist hobject, skipScalar_of_readScalar hread]
  rfl

theorem works_skipMember {levels : List Char} {f : String × Value}
    (hvalue : ReadsAs (skipValue levels) f.2 ()) :
    Works (fun (_ : Unit) cs => do skipValue levels (← readColon (← skipString cs))) () f
      (.ok ()) := by
  intro rest hrest
  rw [Except.map, mapError_eq_ok]
  exact bind_eq_ok.mpr ⟨_, skipString_escaped f.1 _, bind_eq_ok.mpr
    ⟨_, readColon_cons _, hvalue hrest⟩⟩

/-- A value that can be restored is passed over when there are as many levels as characters. -/
theorem Value.readsAs_skipValue {depth : Nat} (hv : v.WellFormed) (h : v.Restorable depth)
    {levels : List Char} (hlevels : v.chars.length ≤ levels.length) :
    ReadsAs (skipValue levels) v () := by
  -- a bracket takes a level, and what is within is shorter by the bracket
  induction h generalizing levels with
  | null =>
    intro rest _
    rw [Value.chars, List.cons_append, skipValue_cons _ (by decide) (by decide) (by decide)]
    rfl
  | bool b =>
    intro rest _
    cases b
    · rw [Value.chars, boolChars, if_neg Bool.false_ne_true, List.cons_append,
        skipValue_cons _ (by decide) (by decide) (by decide)]
      rfl
    · rw [Value.chars, boolChars, if_pos rfl, List.cons_append,
        skipValue_cons _ (by decide) (by decide) (by decide)]
      rfl
  | whole n =>
    intro rest hrest
    cases hv with
    | number hn => exact skipValue_readsBack _ hn.finite (Numeral.readsBack_whole hn) hrest
  | real hx =>
    intro rest hrest
    cases hv with
    | number hn => exact skipValue_readsBack _ hn.finite hx hrest
  | string s =>
    intro rest _
    rw [Value.chars, stringChars, List.cons_append, List.cons_append,
      skipValue_cons _ (by decide) (by decide) (by decide), List.append_assoc]
    exact congrArg (Except.map _) (skipString_escaped s rest)
  | @array depth items _ ih =>
    intro rest _
    cases hv with
    | array hitems =>
      rw [Value.chars] at hlevels ⊢
      obtain ⟨level, levels, rfl⟩ := List.exists_cons_of_length_pos (Nat.zero_lt_of_lt hlevels)
      have hitem : ∀ v ∈ items, ReadsAs (skipValue levels) (id v) () := by
        intro v hv
        have hle := length_chars_le_itemsChars hv
        simp only [List.length_append, List.length_cons] at hlevels
        exact ih v hv (hitems v hv) (by omega)
      have hread := readList_items (fun v hv => (hitems v hv).finite) hitem rest
      simp only [List.map_id_fun', id_eq] at hread
      rw [List.cons_append, List.cons_append, List.append_assoc, skipValue,
        skipSpaces_cons (by decide)]
      simp only [if_true]
      exact congrArg (Except.map _) hread
  | @object depth fields _ ih =>
    intro rest _
    cases hv with
    | object hkeys hvalues =>
      rw [Value.chars] at hlevels ⊢
      obtain ⟨level, levels, rfl⟩ := List.exists_cons_of_length_pos (Nat.zero_lt_of_lt hlevels)
      have hmember : ∀ s, ∀ f ∈ fields,
          Works (fun (_ : Unit) cs => do skipValue levels (← readColon (← skipString cs))) s f
            (.ok ()) := by
        intro s f hf
        have hle := length_chars_le_fieldsChars hf
        simp only [List.length_append, List.length_cons] at hlevels
        exact works_skipMember (ih f hf (hvalues f hf) (by omega))
      have hnone : fields.foldlM (fun _ _ => (.ok () : Except Fault Unit)) () = .ok () :=
        List.foldlM_pure
      have hread := readObject_fields hmember () rest
      rw [hnone, Except.map, mapError_eq_ok] at hread
      rw [List.cons_append, List.cons_append, List.append_assoc, skipValue,
        skipSpaces_cons (by decide)]
      simp only [Char.reduceEq, if_false, if_true]
      exact hread

theorem Value.readsAs_skipAnyValue {depth : Nat} (hv : v.WellFormed) (h : v.Restorable depth) :
    ReadsAs skipAnyValue v () := by
  intro rest hrest
  refine readsAs_skipValue hv h ?_ hrest
  simp only [List.length_cons, List.length_append]
  omega

/-- The reader gives the result whenever the value's text comes first, or fails with its fault. -/
def Reads (reader : Reader α) (v : Value) (result : Except Fault α) : Prop :=
  ∀ ⦃rest⦄, Ended rest → (reader (v.chars ++ rest)).mapError Stop.fault = result.map (·, rest)

theorem reads_ok_iff {reader : Reader α} {x : α} :
    Reads reader v (.ok x) ↔ ReadsAs reader v x :=
  forall₂_congr fun _ _ => mapError_eq_ok

/-- A text is read up to its end, or has the fault of what it holds. -/
theorem readWholeText_reads {reader : Reader α} {result : Except Fault α}
    (h : Reads reader v result) :
    (readWholeText reader v.print).mapError Located.fault = result := by
  have hread := h ended_nil
  rw [List.append_nil] at hread
  rw [readWholeText, Value.print, String.toList_ofList]
  cases hchars : reader v.chars with
  | error stop =>
    rw [hchars] at hread
    cases result with
    | error fault =>
      cases hread
      rfl
    | ok x => cases hread
  | ok found =>
    rw [hchars] at hread
    cases result with
    | error fault => cases hread
    | ok x =>
      cases hread
      rfl

variable {known : List String} {read : Value → Except Fault α} {fields : Fields}

def Bindings.add (known : List String) (read : Value → Except Fault α) (found : Bindings α)
    (f : String × Value) : Except Fault (Bindings α) :=
  if f.1 ∈ known then
    if (found.find? fun g => g.1 = f.1).isSome then .error (.mismatch (.duplicateField f.1))
    else (read f.2).map fun x => found ++ [(f.1, x)]
  else .ok found

theorem works_readBinding {item : Reader α} {f : String × Value}
    (hknown : f.1 ∈ known → Reads item f.2 (read f.2))
    (hunknown : f.1 ∉ known → ReadsAs skipAnyValue f.2 ()) (found : Bindings α) :
    Works (readBinding known item) found f (found.add known read f) := by
  intro rest hrest
  rw [readBinding, readString_escaped, Bindings.add]
  dsimp only [bind, Except.bind]
  rw [readColon_cons]
  split_ifs with hf hfound
  · rfl
  · change (item (f.2.chars ++ rest) >>= fun p => Except.ok (found ++ [(f.1, p.1)], p.2)).mapError
      Stop.fault = _
    rw [mapError_bind, hknown hf hrest]
    cases read f.2 <;> rfl
  · dsimp only
    rw [hunknown hf hrest]
    rfl

theorem Fields.Ascending.keys_ne (h : fields.Ascending) :
    fields.Pairwise fun f g => f.1 ≠ g.1 := by
  refine List.Pairwise.imp ?_ h
  intro f g hlt heq
  exact String.lt_irrefl g.1 (heq ▸ hlt)

/-- Of fields with different keys the known ones are found, each by itself. -/
theorem Bindings.foldlM_add {found : Bindings α} (hnew : ∀ g ∈ found, ∀ f ∈ fields, g.1 ≠ f.1)
    (hkeys : fields.Pairwise fun f g => f.1 ≠ g.1) :
    fields.foldlM (add known read) found =
      ((fields.filter fun f => f.1 ∈ known).mapM fun f => (read f.2).map (f.1, ·)).map
        (found ++ ·) := by
  induction fields generalizing found with
  | nil =>
    rw [List.filter_nil, List.mapM_nil]
    exact congrArg Except.ok (List.append_nil found).symm
  | cons f fields ih =>
    obtain ⟨hother, hkeys⟩ := List.pairwise_cons.mp hkeys
    have hlater : ∀ g ∈ found, ∀ f ∈ fields, g.1 ≠ f.1 :=
      fun g hg f hf => hnew g hg f (List.mem_cons_of_mem _ hf)
    rw [List.foldlM_cons, add]
    by_cases hf : f.1 ∈ known
    · have hnone : (found.find? fun g => g.1 = f.1) = none := by
        rw [List.find?_eq_none]
        exact fun g hg => by simpa using hnew g hg f List.mem_cons_self
      rw [if_pos hf, hnone, if_neg (by simp), List.filter_cons_of_pos (by simpa using hf),
        List.mapM_cons]
      cases read f.2 with
      | error fault => rfl
      | ok x =>
        have hnext : ∀ g ∈ found ++ [(f.1, x)], ∀ f ∈ fields, g.1 ≠ f.1 :=
          List.forall_mem_append.mpr ⟨hlater, List.forall_mem_singleton.mpr hother⟩
        refine (ih hnext hkeys).trans ?_
        cases (fields.filter fun f => f.1 ∈ known).mapM fun f => (read f.2).map (f.1, ·) with
        | error fault => rfl
        | ok more => exact congrArg Except.ok (List.append_assoc found [(f.1, x)] more)
    · rw [if_neg hf, List.filter_cons_of_neg (by simpa using hf)]
      exact ih hlater hkeys

/-- A record takes from an object's text what is read of the fields it knows. -/
theorem reads_readRecord {item : Nat → Reader α} {depth : Nat} (expected : String)
    (read : Value → Except Fault α) (hkeys : fields.Pairwise fun f g => f.1 ≠ g.1)
    (hknown : ∀ f ∈ fields, f.1 ∈ known → Reads (item depth) f.2 (read f.2))
    (hunknown : ∀ f ∈ fields, f.1 ∉ known → ReadsAs skipAnyValue f.2 ()) :
    Reads (readRecord expected known item (depth + 1)) (.object fields)
      ((fields.filter fun f => f.1 ∈ known).mapM fun f => (read f.2).map (f.1, ·)) := by
  have hmember : ∀ (found : Bindings α), ∀ f ∈ fields,
      Works (readBinding known (item depth)) found f (found.add known read f) :=
    fun found f hf => works_readBinding (hknown f hf) (hunknown f hf) found
  have hadd : fields.foldlM (Bindings.add known read) [] = _ :=
    Bindings.foldlM_add (List.forall_mem_nil _) hkeys
  intro rest _
  rw [Value.chars, List.cons_append, List.cons_append, List.append_assoc, readRecord,
    skipSpaces_cons (by decide)]
  refine (readObject_fields hmember [] rest).trans ?_
  rw [hadd]
  cases (fields.filter fun f => f.1 ∈ known).mapM fun f => (read f.2).map (f.1, ·) <;> rfl

/-- What a record's reader takes from an object of values that can be restored. -/
theorem readsAs_readRecord_values {depth : Nat} (expected : String) (known : List String)
    (hkeys : fields.Pairwise fun f g => f.1 ≠ g.1) (hvalues : ∀ f ∈ fields, f.2.WellFormed)
    (h : ∀ f ∈ fields, f.2.Restorable depth) :
    ReadsAs (readRecord expected known readValue (depth + 1)) (.object fields)
      (fields.filter fun f => f.1 ∈ known) := by
  have hknown : ∀ f ∈ fields, f.1 ∈ known → Reads (readValue depth) f.2 (.ok f.2) :=
    fun f hf _ => reads_ok_iff.mpr (Value.readsAs_readValue (hvalues f hf) (h f hf))
  have hunknown : ∀ f ∈ fields, f.1 ∉ known → ReadsAs skipAnyValue f.2 () :=
    fun f hf _ => Value.readsAs_skipAnyValue (hvalues f hf) (h f hf)
  have hall : ∀ fields : Fields,
      (fields.mapM fun f => (.ok f.2 : Except Fault Value).map (f.1, ·)) = .ok fields := by
    intro fields
    exact (List.mapM_pure (f := id)).trans (congrArg _ (List.map_id fields))
  have hread := reads_readRecord expected .ok hkeys hknown hunknown
  rw [hall] at hread
  exact reads_ok_iff.mp hread

end FleetDrift.Json
