import FleetDrift.Json.Reader
import FleetDrift.Proofs.NumberText
import Mathlib.Data.List.Basic

/-!
# The compact JSON text of a value

A text that is followed by anything that does not go on a number tells its value: strings end at
their quote, lists and objects at their bracket, numbers where no character of a number follows.
-/

namespace FleetDrift.Json

open Number (isNumeralChar)

theorem hexValue?_digitChar {n : Nat} (h : n < 16) :
    Text.hexValue? (Nat.digitChar n) = some n := by
  have hall : ∀ k : Fin 16, Text.hexValue? (Nat.digitChar k) = some k.val := by decide
  exact hall ⟨n, h⟩

theorem readHex_control {c : Char} (h : c.toNat < 0x20) (rest : List Char) :
    readHex ('0' :: '0' :: Nat.digitChar (c.toNat / 16) :: Nat.digitChar (c.toNat % 16) :: rest) =
      .ok (c.toNat, rest) := by
  have hzero : Text.hexValue? '0' = some 0 := by decide
  have hhigh := hexValue?_digitChar (n := c.toNat / 16) (by omega)
  have hlow := hexValue?_digitChar (n := c.toNat % 16) (by omega)
  simp only [readHex, hzero, hhigh, hlow]
  congr 2
  omega

theorem readEscape_control {c : Char} (h : c.toNat < 0x20) (rest : List Char) :
    readEscape ('u' :: '0' :: '0' :: Nat.digitChar (c.toNat / 16) :: Nat.digitChar (c.toNat % 16) ::
      rest) = .ok (c, rest) := by
  have htrailing : isTrailingSurrogate c.toNat = false := by
    simp only [isTrailingSurrogate, Bool.and_eq_false_iff, decide_eq_false_iff_not]
    omega
  have hleading : isLeadingSurrogate c.toNat = false := by
    simp only [isLeadingSurrogate, Bool.and_eq_false_iff, decide_eq_false_iff_not]
    omega
  have hshort : shortEscape? 'u' = none := by decide
  simp only [readEscape, hshort, if_true, readUnicode, readHex_control h, bind, Except.bind,
    htrailing, hleading, Bool.false_eq_true, if_false, Char.ofNat_toNat]

/-- A character is written as it is, or as a backslash and an escape that is read as it. -/
theorem escapeChar_cases (c : Char) :
    (escapeChar c = [c] ∧ c ≠ '"' ∧ c ≠ '\\' ∧ ¬ c.toNat < 0x20) ∨
      ∃ e, escapeChar c = '\\' :: e ∧ ∀ rest, readEscape (e ++ rest) = .ok (c, rest) := by
  unfold escapeChar
  split
  · exact .inr ⟨['"'], rfl, fun _ => rfl⟩
  · exact .inr ⟨['\\'], rfl, fun _ => rfl⟩
  · exact .inr ⟨['b'], rfl, fun _ => rfl⟩
  · exact .inr ⟨['f'], rfl, fun _ => rfl⟩
  · exact .inr ⟨['n'], rfl, fun _ => rfl⟩
  · exact .inr ⟨['r'], rfl, fun _ => rfl⟩
  · exact .inr ⟨['t'], rfl, fun _ => rfl⟩
  · next hquote hbackslash _ _ _ _ _ =>
    split_ifs with hcontrol
    · exact .inr ⟨_, rfl, readEscape_control hcontrol⟩
    · exact .inl ⟨rfl, hquote, hbackslash, hcontrol⟩

theorem readStringFrom_escaped (cs rest fuel done : List Char) (h : cs.length < fuel.length) :
    readStringFrom fuel done (cs.flatMap escapeChar ++ '"' :: rest) =
      .ok (String.ofList (done.reverse ++ cs), rest) := by
  induction cs generalizing fuel done with
  | nil =>
    obtain ⟨f, fuel, rfl⟩ := List.exists_cons_of_length_pos h
    simp [readStringFrom]
  | cons c cs ih =>
    obtain ⟨f, fuel, rfl⟩ := List.exists_cons_of_length_pos (Nat.zero_lt_of_lt h)
    have hfuel : cs.length < fuel.length := by simpa using h
    have hnext := ih fuel (c :: done) hfuel
    rw [List.reverse_cons, List.append_assoc, List.singleton_append] at hnext
    rw [List.flatMap_cons, List.append_assoc]
    rcases escapeChar_cases c with ⟨heq, hquote, hbackslash, hcontrol⟩ | ⟨e, heq, hread⟩
    · rw [heq, List.singleton_append, readStringFrom, if_neg hquote, if_neg hbackslash,
        if_neg hcontrol, hnext]
    · rw [heq, List.cons_append, readStringFrom, if_neg (by decide), if_pos rfl, hread]
      exact hnext

theorem length_le_escaped (cs : List Char) : cs.length ≤ (cs.flatMap escapeChar).length := by
  induction cs with
  | nil => exact Nat.le_refl 0
  | cons c cs ih =>
    have hpos : 1 ≤ (escapeChar c).length := by
      rcases escapeChar_cases c with ⟨heq, -⟩ | ⟨e, heq, -⟩ <;> simp [heq]
    rw [List.flatMap_cons, List.length_append, List.length_cons]
    omega

theorem readString_escaped (s : String) (rest : List Char) :
    readString (s.toList.flatMap escapeChar ++ '"' :: rest) = .ok (s, rest) := by
  have hfuel : s.toList.length <
      (' ' :: (s.toList.flatMap escapeChar ++ '"' :: rest)).length := by
    have hle := length_le_escaped s.toList
    simp only [List.length_cons, List.length_append]
    omega
  rw [readString, readStringFrom_escaped _ _ _ _ hfuel, List.reverse_nil, List.nil_append,
    String.ofList_toList]

variable {rest rest' : List Char}

/-- A string's text ends where it says. -/
theorem stringChars_unique {s t : String}
    (h : stringChars s ++ rest = stringChars t ++ rest') : s = t ∧ rest = rest' := by
  have hbody : s.toList.flatMap escapeChar ++ '"' :: rest =
      t.toList.flatMap escapeChar ++ '"' :: rest' := by
    simpa [stringChars] using h
  have hread := readString_escaped s rest
  rw [hbody, readString_escaped t rest'] at hread
  cases hread
  exact ⟨rfl, rfl⟩

def Numeral.Finite : Numeral → Prop
  | .whole _ => True
  | .real x => x.isFinite

/-- What does not go on a number. -/
def Closed (rest : List Char) : Prop := ∀ c ∈ rest.head?, isNumeralChar c = false

theorem closed_nil : Closed [] := fun _ h => nomatch h

theorem closed_cons {c : Char} (h : isNumeralChar c = false) (rest : List Char) :
    Closed (c :: rest) := fun _ hd => Option.mem_some.mp hd ▸ h

theorem Numeral.chars_real {x : Number.Binary64} (hx : (Numeral.real x).Finite) :
    (Numeral.real x).chars = Number.Notation.json.chars x := if_pos hx

theorem Numeral.isNumeralChar_of_mem_chars {n : Numeral} (hn : n.Finite) {c : Char}
    (h : c ∈ n.chars) : isNumeralChar c := by
  cases n with
  | whole k => exact Number.isNumeralChar_of_mem_intDigits h
  | real x => exact Number.Notation.isNumeralChar_of_mem_json hn (chars_real hn ▸ h)

theorem Numeral.chars_ne_nil {n : Numeral} (hn : n.Finite) : n.chars ≠ [] := by
  cases n with
  | whole k => exact Number.intDigits_ne_nil k
  | real x => exact chars_real hn ▸ Number.Notation.json_ne_nil hn

theorem Numeral.chars_injective {m n : Numeral} (hm : m.Finite) (hn : n.Finite)
    (h : m.chars = n.chars) : m = n := by
  cases m with
  | whole j =>
    cases n with
    | whole k => rw [Number.intDigits_injective h]
    | real y =>
      rw [chars_real hn] at h
      exact absurd h.symm (Number.Notation.json_ne_intDigits hn j)
  | real x =>
    rw [chars_real hm] at h
    cases n with
    | whole k => exact absurd h (Number.Notation.json_ne_intDigits hm k)
    | real y =>
      rw [chars_real hn] at h
      rw [Number.Notation.json_injective hm hn h]

theorem takeWhile_numeral {cs : List Char} (hcs : ∀ c ∈ cs, isNumeralChar c) (hr : Closed rest) :
    (cs ++ rest).takeWhile isNumeralChar = cs := by
  rw [List.takeWhile_append_of_pos hcs]
  cases rest with
  | nil => exact List.append_nil cs
  | cons c rest =>
    have hc := hr c rfl
    rw [List.takeWhile_cons_of_neg (by simp [hc]), List.append_nil]

theorem Numeral.chars_unique {m n : Numeral} (hm : m.Finite) (hn : n.Finite) (hr : Closed rest)
    (hr' : Closed rest') (h : m.chars ++ rest = n.chars ++ rest') : m = n ∧ rest = rest' := by
  have htake := congrArg (List.takeWhile isNumeralChar) h
  rw [takeWhile_numeral (fun _ => isNumeralChar_of_mem_chars hm) hr,
    takeWhile_numeral (fun _ => isNumeralChar_of_mem_chars hn) hr'] at htake
  refine ⟨chars_injective hm hn htake, ?_⟩
  rw [htake] at h
  exact List.append_cancel_left h

inductive Value.Finite : Value → Prop
  | null : Finite .null
  | bool (b : Bool) : Finite (.bool b)
  | number {n : Numeral} (h : n.Finite) : Finite (.number n)
  | string (s : String) : Finite (.string s)
  | array {items : List Value} (h : ∀ v ∈ items, Finite v) : Finite (.array items)
  | object {fields : Fields} (h : ∀ f ∈ fields, Finite f.2) : Finite (.object fields)

inductive Kind where
  | null
  | bool
  | number
  | string
  | array
  | object
  deriving DecidableEq

def Value.kind : Value → Kind
  | .null => .null
  | .bool _ => .bool
  | .number _ => .number
  | .string _ => .string
  | .array _ => .array
  | .object _ => .object

def leadKind? (c : Char) : Option Kind :=
  if isNumeralChar c then some .number
  else if c = 'n' then some .null
  else if c = 't' ∨ c = 'f' then some .bool
  else if c = '"' then some .string
  else if c = '[' then some .array
  else if c = '\x7b' then some .object
  else none

theorem Value.exists_lead {v : Value} (hv : v.Finite) :
    ∃ c cs, v.chars = c :: cs ∧ leadKind? c = some v.kind := by
  cases hv with
  | null => exact ⟨'n', ['u', 'l', 'l'], by rw [chars], by decide⟩
  | bool b => cases b <;> exact ⟨_, _, by rw [chars]; rfl, by decide⟩
  | number h =>
    obtain ⟨c, cs, hc⟩ := List.exists_cons_of_ne_nil (Numeral.chars_ne_nil h)
    have hnum := Numeral.isNumeralChar_of_mem_chars h (hc ▸ List.mem_cons_self)
    exact ⟨c, cs, by rw [chars, hc], if_pos hnum⟩
  | string s => exact ⟨'"', _, by rw [chars]; rfl, rfl⟩
  | array h => exact ⟨'[', _, by rw [chars]; rfl, rfl⟩
  | object h => exact ⟨'\x7b', _, by rw [chars]; rfl, rfl⟩

theorem Value.kind_eq_of_chars {v w : Value} (hv : v.Finite) (hw : w.Finite)
    (h : v.chars ++ rest = w.chars ++ rest') : v.kind = w.kind := by
  obtain ⟨c, cs, hc, hk⟩ := v.exists_lead hv
  obtain ⟨d, ds, hd, hk'⟩ := w.exists_lead hw
  rw [hc, hd, List.cons_append, List.cons_append] at h
  rw [(List.cons.inj h).1, hk'] at hk
  exact (Option.some.inj hk).symm

/-- What follows an item of a list: a comma and the next one, or nothing. -/
def itemsTail : List Value → List Char
  | [] => []
  | item :: items => ',' :: itemsChars (item :: items)

theorem itemsChars_cons (v : Value) (vs : List Value) :
    itemsChars (v :: vs) = v.chars ++ itemsTail vs := by
  cases vs with
  | nil => rw [itemsChars, itemsTail, List.append_nil]
  | cons w vs => rw [itemsChars, itemsTail]

def fieldsTail : Fields → List Char
  | [] => []
  | field :: fields => ',' :: fieldsChars (field :: fields)

theorem fieldsChars_cons (key : String) (v : Value) (fields : Fields) :
    fieldsChars ((key, v) :: fields) = stringChars key ++ ':' :: v.chars ++ fieldsTail fields := by
  cases fields with
  | nil => rw [fieldsChars, fieldsTail, List.append_nil]
  | cons f fields =>
    rw [fieldsChars, fieldsTail]

theorem closed_itemsTail (vs : List Value) (rest : List Char) :
    Closed (itemsTail vs ++ ']' :: rest) := by
  cases vs with
  | nil => exact closed_cons (by decide) rest
  | cons v vs => exact closed_cons (by decide) _

theorem closed_fieldsTail (fields : Fields) (rest : List Char) :
    Closed (fieldsTail fields ++ '\x7d' :: rest) := by
  cases fields with
  | nil => exact closed_cons (by decide) rest
  | cons f fields => exact closed_cons (by decide) _

theorem itemsTail_of_itemsChars {vs ws : List Value} (hv : ∀ v ∈ vs, v.Finite)
    (hw : ∀ w ∈ ws, w.Finite)
    (h : itemsChars vs ++ ']' :: rest = itemsChars ws ++ ']' :: rest') :
    itemsTail vs ++ ']' :: rest = itemsTail ws ++ ']' :: rest' := by
  have hclose : ∀ {v : Value} {vs : List Value} {r r' : List Char}, v.Finite →
      itemsChars (v :: vs) ++ r' ≠ ']' :: r := by
    intro v vs r r' hfin heq
    obtain ⟨c, cs, hc, hk⟩ := v.exists_lead hfin
    rw [itemsChars_cons, hc] at heq
    rw [(List.cons.inj heq).1] at hk
    exact absurd hk (by cases v.kind <;> decide)
  cases vs with
  | nil =>
    cases ws with
    | nil => exact h
    | cons w ws => exact absurd h.symm (hclose (hw w List.mem_cons_self))
  | cons v vs =>
    cases ws with
    | nil => exact absurd h (hclose (hv v List.mem_cons_self))
    | cons w ws => exact congrArg (',' :: ·) h

theorem fieldsTail_of_fieldsChars {fs gs : Fields}
    (h : fieldsChars fs ++ '\x7d' :: rest = fieldsChars gs ++ '\x7d' :: rest') :
    fieldsTail fs ++ '\x7d' :: rest = fieldsTail gs ++ '\x7d' :: rest' := by
  have hclose : ∀ {f : String × Value} {fs : Fields} {r r' : List Char},
      fieldsChars (f :: fs) ++ r' ≠ '\x7d' :: r := by
    rintro ⟨key, v⟩ fs r r' heq
    rw [fieldsChars_cons] at heq
    exact absurd (List.cons.inj heq).1 (by decide)
  cases fs with
  | nil =>
    cases gs with
    | nil => exact h
    | cons g gs => exact absurd h.symm hclose
  | cons f fs =>
    cases gs with
    | nil => exact absurd h hclose
    | cons g gs => exact congrArg (',' :: ·) h

/-- The value can be told from a text that it begins, together with what follows. -/
def Value.Told (v : Value) : Prop :=
  ∀ {w : Value} {rest rest' : List Char}, w.Finite → Closed rest → Closed rest' →
    v.chars ++ rest = w.chars ++ rest' → v = w ∧ rest = rest'

theorem itemsTail_unique {vs ws : List Value} (hv : ∀ v ∈ vs, v.Told) (hw : ∀ w ∈ ws, w.Finite)
    (h : itemsTail vs ++ ']' :: rest = itemsTail ws ++ ']' :: rest') : vs = ws ∧ rest = rest' := by
  induction vs generalizing ws with
  | nil =>
    cases ws with
    | nil => exact ⟨rfl, (List.cons.inj h).2⟩
    | cons w ws => exact absurd (List.cons.inj h).1 (by decide)
  | cons v vs ih =>
    cases ws with
    | nil => exact absurd (List.cons.inj h).1 (by decide)
    | cons w ws =>
      rw [itemsTail, itemsTail, List.cons_append, List.cons_append] at h
      have hnext := (List.cons.inj h).2
      rw [itemsChars_cons, itemsChars_cons, List.append_assoc, List.append_assoc] at hnext
      obtain ⟨rfl, htail⟩ := hv v List.mem_cons_self (hw w List.mem_cons_self)
        (closed_itemsTail vs rest) (closed_itemsTail ws rest') hnext
      obtain ⟨rfl, hrest⟩ := ih (fun u hu => hv u (List.mem_cons_of_mem v hu))
        (fun u hu => hw u (List.mem_cons_of_mem v hu)) htail
      exact ⟨rfl, hrest⟩

theorem fieldsTail_unique {fs gs : Fields} (hf : ∀ f ∈ fs, f.2.Told) (hg : ∀ g ∈ gs, g.2.Finite)
    (h : fieldsTail fs ++ '\x7d' :: rest = fieldsTail gs ++ '\x7d' :: rest') :
    fs = gs ∧ rest = rest' := by
  induction fs generalizing gs with
  | nil =>
    cases gs with
    | nil => exact ⟨rfl, (List.cons.inj h).2⟩
    | cons g gs => exact absurd (List.cons.inj h).1 (by decide)
  | cons f fs ih =>
    cases gs with
    | nil => exact absurd (List.cons.inj h).1 (by decide)
    | cons g gs =>
      obtain ⟨key, v⟩ := f
      obtain ⟨key', w⟩ := g
      rw [fieldsTail, fieldsTail, List.cons_append, List.cons_append] at h
      have hnext := (List.cons.inj h).2
      rw [fieldsChars_cons, fieldsChars_cons] at hnext
      simp only [List.append_assoc, List.cons_append] at hnext
      obtain ⟨rfl, hvalue⟩ := stringChars_unique hnext
      obtain ⟨rfl, htail⟩ := hf (key, v) List.mem_cons_self (hg (key, w) List.mem_cons_self)
        (closed_fieldsTail fs rest) (closed_fieldsTail gs rest') (List.cons.inj hvalue).2
      obtain ⟨rfl, hrest⟩ := ih (fun u hu => hf u (List.mem_cons_of_mem _ hu))
        (fun u hu => hg u (List.mem_cons_of_mem _ hu)) htail
      exact ⟨rfl, hrest⟩

/-- No text of a finite value goes on as the text of another. -/
theorem Value.chars_unique {v : Value} (hv : v.Finite) : v.Told := by
  induction hv with
  | null =>
    intro w rest rest' hw _ _ h
    have hkind := kind_eq_of_chars .null hw h
    cases hw <;> cases hkind
    exact ⟨rfl, List.append_cancel_left h⟩
  | bool b =>
    intro w rest rest' hw _ _ h
    have hkind := kind_eq_of_chars (.bool b) hw h
    cases hw <;> cases hkind
    next b' =>
    rw [chars, chars] at h
    cases b <;> cases b'
    · exact ⟨rfl, List.append_cancel_left h⟩
    · exact absurd (List.cons.inj h).1 (by decide)
    · exact absurd (List.cons.inj h).1 (by decide)
    · exact ⟨rfl, List.append_cancel_left h⟩
  | number hn =>
    intro w rest rest' hw hr hr' h
    have hkind := kind_eq_of_chars (.number hn) hw h
    cases hw <;> cases hkind
    next hm =>
    rw [chars, chars] at h
    obtain ⟨rfl, hrest⟩ := Numeral.chars_unique hn hm hr hr' h
    exact ⟨rfl, hrest⟩
  | string s =>
    intro w rest rest' hw _ _ h
    have hkind := kind_eq_of_chars (.string s) hw h
    cases hw <;> cases hkind
    rw [chars, chars] at h
    obtain ⟨rfl, hrest⟩ := stringChars_unique h
    exact ⟨rfl, hrest⟩
  | array hvs ih =>
    intro w rest rest' hw _ _ h
    have hkind := kind_eq_of_chars (.array hvs) hw h
    cases hw <;> cases hkind
    next hws =>
    rw [chars, chars] at h
    simp only [List.cons_append, List.append_assoc, List.nil_append] at h
    obtain ⟨rfl, hrest⟩ := itemsTail_unique ih hws
      (itemsTail_of_itemsChars hvs hws (List.cons.inj h).2)
    exact ⟨rfl, hrest⟩
  | object hfs ih =>
    intro w rest rest' hw _ _ h
    have hkind := kind_eq_of_chars (.object hfs) hw h
    cases hw <;> cases hkind
    next hgs =>
    rw [chars, chars] at h
    simp only [List.cons_append, List.append_assoc, List.nil_append] at h
    obtain ⟨rfl, hrest⟩ := fieldsTail_unique ih hgs (fieldsTail_of_fieldsChars (List.cons.inj h).2)
    exact ⟨rfl, hrest⟩

theorem Value.chars_injective {v w : Value} (hv : v.Finite) (hw : w.Finite)
    (h : v.chars = w.chars) : v = w :=
  (chars_unique hv hw closed_nil closed_nil (congrArg (· ++ []) h)).1

end FleetDrift.Json
