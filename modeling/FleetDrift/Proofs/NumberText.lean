import FleetDrift.Number.Notation
import FleetDrift.Proofs.ShortestDecimal
import Mathlib.Data.List.Basic

/-!
# The JSON text of a number

A finite number is written as a spelling: digits, then a fraction or an exponent or both. The text
reads back as the number, so two finite numbers have the same text only if they are the same, and no
whole number has the text of a real one.
-/

namespace FleetDrift.Number

theorem digitValue_of_isDigit {c : Char} (h : c.isDigit) : digitValue c = c.toNat - '0'.toNat :=
  if_pos h

theorem digitsValue_eq_ofDigitChars {cs : List Char} (h : ∀ c ∈ cs, c.isDigit) :
    digitsValue cs = Nat.ofDigitChars 10 cs 0 := by
  rw [digitsValue, Nat.ofDigitChars_eq_foldl]
  exact List.foldl_ext _ _ _ fun n c hc => by rw [digitValue_of_isDigit (h c hc)]

theorem isDigit_of_mem_decimalDigits {n : Nat} {c : Char} (h : c ∈ decimalDigits n) : c.isDigit :=
  Nat.isDigit_of_mem_toDigits (by decide) (by decide) h

theorem decimalDigits_ne_nil (n : Nat) : decimalDigits n ≠ [] := Nat.toDigits_ne_nil

@[simp] theorem digitsValue_decimalDigits (n : Nat) : digitsValue (decimalDigits n) = n := by
  rw [digitsValue_eq_ofDigitChars fun c hc => isDigit_of_mem_decimalDigits hc]
  exact Nat.ofDigitChars_ten_toDigits

theorem decimalDigits_injective {m n : Nat} (h : decimalDigits m = decimalDigits n) : m = n := by
  rw [← digitsValue_decimalDigits m, h, digitsValue_decimalDigits]

theorem digitsValue_append (cs ds : List Char) :
    digitsValue (cs ++ ds) = ds.foldl (fun n c => 10 * n + digitValue c) (digitsValue cs) :=
  List.foldl_append

theorem foldl_zeros (k n : Nat) :
    (Notation.zeros k).foldl (fun n c => 10 * n + digitValue c) n = 10 ^ k * n := by
  induction k generalizing n with
  | zero => simp [Notation.zeros]
  | succ k ih =>
    have hzero : digitValue '0' = 0 := rfl
    rw [Notation.zeros, List.replicate_succ, List.foldl_cons, hzero, Nat.add_zero, ← Notation.zeros,
      ih, Nat.pow_succ, Nat.mul_assoc]

theorem digitsValue_append_zeros (cs : List Char) (k : Nat) :
    digitsValue (cs ++ Notation.zeros k) = 10 ^ k * digitsValue cs := by
  rw [digitsValue_append, foldl_zeros]

theorem digitsValue_zeros_append (k : Nat) (cs : List Char) :
    digitsValue (Notation.zeros k ++ cs) = digitsValue cs := by
  have hzero : digitsValue (Notation.zeros k) = 0 := by
    rw [digitsValue, foldl_zeros, Nat.mul_zero]
  rw [digitsValue_append, hzero]
  rfl

theorem isDigit_of_mem_zeros {k : Nat} {c : Char} (h : c ∈ Notation.zeros k) : c.isDigit := by
  rw [List.eq_of_mem_replicate h]
  decide

def isNumeralChar (c : Char) : Bool := c.isDigit || c ∈ ['.', 'e', '+', '-']

theorem isNumeralChar_of_isDigit {c : Char} (h : c.isDigit) : isNumeralChar c := by
  rw [isNumeralChar, h, Bool.true_or]

theorem intDigits_injective {m n : Int} (h : intDigits m = intDigits n) : m = n := by
  have hminus : ∀ {a b : Nat}, decimalDigits a ≠ '-' :: decimalDigits b := by
    intro a b hab
    have hdigit : '-'.isDigit := isDigit_of_mem_decimalDigits (hab ▸ List.mem_cons_self)
    exact absurd hdigit (by decide)
  rw [intDigits, intDigits] at h
  split_ifs at h with hm hn hn
  · have habs := decimalDigits_injective (List.cons_inj_right _ |>.mp h)
    omega
  · exact absurd h.symm hminus
  · exact absurd h hminus
  · have habs := decimalDigits_injective h
    omega

theorem mem_intDigits {n : Int} {c : Char} (h : c ∈ intDigits n) : c.isDigit ∨ c = '-' := by
  rw [intDigits] at h
  split_ifs at h
  · rcases List.mem_cons.mp h with rfl | hc
    · exact .inr rfl
    · exact .inl (isDigit_of_mem_decimalDigits hc)
  · exact .inl (isDigit_of_mem_decimalDigits h)

theorem isNumeralChar_of_mem_intDigits {n : Int} {c : Char} (h : c ∈ intDigits n) :
    isNumeralChar c := by
  rcases mem_intDigits h with hdigit | rfl
  · exact isNumeralChar_of_isDigit hdigit
  · decide

theorem intDigits_ne_nil (n : Int) : intDigits n ≠ [] := by
  rw [intDigits]
  split_ifs
  · exact List.cons_ne_nil _ _
  · exact decimalDigits_ne_nil _

/-- A real number as it is written, without its sign. An exponent has a sign of its own, set if it
is negative. -/
structure Spelling where
  whole : List Char
  fraction : Option (List Char)
  exponent : Option (Bool × List Char)
  whole_ne_nil : whole ≠ []
  whole_digits : ∀ c ∈ whole, c.isDigit
  fraction_digits : ∀ fs ∈ fraction, ∀ c ∈ fs, c.isDigit
  exponent_ne_nil : ∀ e ∈ exponent, e.2 ≠ []
  exponent_digits : ∀ e ∈ exponent, ∀ c ∈ e.2, c.isDigit
  marked : fraction.isSome ∨ exponent.isSome

namespace Spelling

def fractionChars : Option (List Char) → List Char
  | none => []
  | some fs => '.' :: fs

def exponentChars : Option (Bool × List Char) → List Char
  | none => []
  | some (negative, ds) => 'e' :: (if negative then '-' else '+') :: ds

def exponentValue : Option (Bool × List Char) → Int
  | none => 0
  | some (negative, ds) => if negative then -(digitsValue ds : Int) else digitsValue ds

def chars (s : Spelling) : List Char :=
  s.whole ++ (fractionChars s.fraction ++ exponentChars s.exponent)

def decimal (s : Spelling) : Decimal :=
  ⟨digitsValue (s.whole ++ s.fraction.getD []),
    exponentValue s.exponent - (s.fraction.getD []).length⟩

variable {s : Spelling}

theorem exponentPart_exponentChars {e : Option (Bool × List Char)} (hne : ∀ x ∈ e, x.2 ≠ [])
    (hd : ∀ x ∈ e, ∀ c ∈ x.2, c.isDigit) :
    Decimal.exponentPart (exponentChars e) = some (exponentValue e) := by
  rcases e with _ | ⟨_ | _, ds⟩
  · rfl
  all_goals
    have hds : ds ≠ [] ∧ ds.all Char.isDigit :=
      ⟨hne _ rfl, List.all_eq_true.mpr (hd _ rfl)⟩
    simp [exponentChars, exponentValue, Decimal.exponentPart, hds]

theorem takeWhile_exponentChars (e : Option (Bool × List Char)) :
    (exponentChars e).takeWhile Char.isDigit = [] ∧
      (exponentChars e).dropWhile Char.isDigit = exponentChars e := by
  rcases e with _ | ⟨negative, ds⟩
  · exact ⟨rfl, rfl⟩
  · exact ⟨List.takeWhile_cons_of_neg (by decide), List.dropWhile_cons_of_neg (by decide)⟩

theorem ofChars?_chars (s : Spelling) : Decimal.ofChars? s.chars = some s.decimal := by
  obtain ⟨whole, fraction, exponent, hne, hw, hf, he, hd, -⟩ := s
  have hexp := exponentPart_exponentChars he hd
  obtain ⟨htake, hdrop⟩ := takeWhile_exponentChars exponent
  have hempty : whole.isEmpty = false := by simpa using hne
  rcases fraction with _ | fs
  · have hread : Decimal.ofChars? (whole ++ exponentChars exponent) =
        (Decimal.exponentPart (exponentChars exponent)).map fun e => ⟨digitsValue whole, e⟩ := by
      rw [Decimal.ofChars?, List.takeWhile_append_of_pos hw, List.dropWhile_append_of_pos hw, htake,
        hdrop]
      -- what follows the digits is no point
      rcases exponent with _ | ⟨negative, ds⟩ <;> simp [exponentChars, hempty]
    simp [chars, fractionChars, hread, hexp, decimal]
  · have hdot : ('.' :: (fs ++ exponentChars exponent)).takeWhile Char.isDigit = [] ∧
        ('.' :: (fs ++ exponentChars exponent)).dropWhile Char.isDigit =
          '.' :: (fs ++ exponentChars exponent) :=
      ⟨List.takeWhile_cons_of_neg (by decide), List.dropWhile_cons_of_neg (by decide)⟩
    have hfs := hf fs rfl
    simp only [chars, fractionChars, List.cons_append, Decimal.ofChars?,
      List.takeWhile_append_of_pos hw, List.dropWhile_append_of_pos hw, hdot.1, hdot.2,
      List.takeWhile_append_of_pos hfs, List.dropWhile_append_of_pos hfs, htake, hdrop,
      List.append_nil, hempty, hexp, decimal]
    rfl

theorem isNumeralChar_of_mem_chars {c : Char} (h : c ∈ s.chars) : isNumeralChar c := by
  rw [chars, List.mem_append, List.mem_append] at h
  rcases h with h | h | h
  · exact isNumeralChar_of_isDigit (s.whole_digits c h)
  · cases hf : s.fraction with
    | none =>
      rw [hf] at h
      cases h
    | some fs =>
      rw [hf] at h
      rcases List.mem_cons.mp h with rfl | h
      · decide
      · exact isNumeralChar_of_isDigit (s.fraction_digits fs hf c h)
  · cases he : s.exponent with
    | none =>
      rw [he] at h
      cases h
    | some e =>
      obtain ⟨negative, ds⟩ := e
      rw [he, exponentChars, List.mem_cons, List.mem_cons] at h
      rcases h with rfl | rfl | h
      · decide
      · cases negative <;> decide
      · exact isNumeralChar_of_isDigit (s.exponent_digits _ he c h)

theorem mark_mem_chars (s : Spelling) : '.' ∈ s.chars ∨ 'e' ∈ s.chars := by
  obtain ⟨whole, fraction, exponent, -, -, -, -, -, hmarked⟩ := s
  rcases hmarked with h | h
  · obtain ⟨fs, rfl⟩ := Option.isSome_iff_exists.mp h
    exact .inl (by simp [chars, fractionChars])
  · obtain ⟨⟨negative, ds⟩, rfl⟩ := Option.isSome_iff_exists.mp h
    exact .inr (by simp [chars, exponentChars])

/-- Reads as the value of `ds` with the point after `point` places. -/
def Spells (s : Spelling) (ds : List Char) (point : Int) : Prop :=
  ∀ negative, s.decimal.nearest negative =
    (⟨digitsValue ds, point - ds.length⟩ : Decimal).nearest negative

theorem spells_of_decimal {ds : List Char} {point : Int}
    (h : s.decimal = ⟨digitsValue ds, point - ds.length⟩) : s.Spells ds point :=
  fun _ => by rw [h]

/-- Digits on both sides of a point. -/
def pointed (ws fs : List Char) (hne : ws ≠ []) (hw : ∀ c ∈ ws, c.isDigit)
    (hf : ∀ c ∈ fs, c.isDigit) : Spelling where
  whole := ws
  fraction := some fs
  exponent := none
  whole_ne_nil := hne
  whole_digits := hw
  fraction_digits := fun _ h => Option.mem_some.mp h ▸ hf
  exponent_ne_nil := fun _ h => nomatch h
  exponent_digits := fun _ h => nomatch h
  marked := .inl rfl

theorem chars_pointed {ws fs : List Char} (hne : ws ≠ []) (hw : ∀ c ∈ ws, c.isDigit)
    (hf : ∀ c ∈ fs, c.isDigit) : (pointed ws fs hne hw hf).chars = ws ++ '.' :: fs := by
  simp [chars, pointed, fractionChars, exponentChars]

theorem decimal_pointed {ws fs : List Char} (hne : ws ≠ []) (hw : ∀ c ∈ ws, c.isDigit)
    (hf : ∀ c ∈ fs, c.isDigit) :
    (pointed ws fs hne hw hf).decimal = ⟨digitsValue (ws ++ fs), -fs.length⟩ := by
  simp [decimal, pointed, exponentValue]

theorem isDigit_of_mem_zero : ∀ c ∈ ['0'], c.isDigit := by simp

theorem exists_spelling_below_one {ds : List Char} (hd : ∀ c ∈ ds, c.isDigit) {point : Int}
    (h : point ≤ 0) :
    ∃ s : Spelling, ['0', '.'] ++ Notation.zeros (-point).toNat ++ ds = s.chars ∧
      s.Spells ds point := by
  have hf : ∀ c ∈ Notation.zeros (-point).toNat ++ ds, c.isDigit := fun c hc =>
    (List.mem_append.mp hc).elim isDigit_of_mem_zeros (hd c)
  have hne := List.cons_ne_nil '0' []
  refine ⟨pointed ['0'] _ hne isDigit_of_mem_zero hf, ?_, spells_of_decimal ?_⟩
  · rw [chars_pointed]
    simp
  · have hvalue : digitsValue (['0'] ++ (Notation.zeros (-point).toNat ++ ds)) =
        digitsValue ds := by
      rw [← List.append_assoc]
      exact digitsValue_zeros_append ((-point).toNat + 1) ds
    rw [decimal_pointed, hvalue, List.length_append, Notation.zeros, List.length_replicate]
    congr 1
    omega

theorem exists_spelling_inside {ds : List Char} (hne : ds ≠ []) (hd : ∀ c ∈ ds, c.isDigit)
    {point : Int} (hpos : 0 < point) (hlt : point < ds.length) :
    ∃ s : Spelling, ds.take point.toNat ++ '.' :: ds.drop point.toNat = s.chars ∧
      s.Spells ds point := by
  have hw : ∀ c ∈ ds.take point.toNat, c.isDigit := fun c hc => hd c (List.mem_of_mem_take hc)
  have hf : ∀ c ∈ ds.drop point.toNat, c.isDigit := fun c hc => hd c (List.mem_of_mem_drop hc)
  have hw' : ds.take point.toNat ≠ [] := by
    rw [Ne, List.take_eq_nil_iff]
    rintro (hpoint | hnil)
    · omega
    · exact hne hnil
  refine ⟨pointed _ _ hw' hw hf, (chars_pointed hw' hw hf).symm, spells_of_decimal ?_⟩
  rw [decimal_pointed, List.take_append_drop, List.length_drop]
  congr 1
  omega

theorem exists_spelling_whole {ds : List Char} (hne : ds ≠ []) (hd : ∀ c ∈ ds, c.isDigit)
    {point : Int} (hle : (ds.length : Int) ≤ point) :
    ∃ s : Spelling, ds ++ Notation.zeros (point.toNat - ds.length) ++ ".0".toList = s.chars ∧
      s.Spells ds point := by
  have hw : ∀ c ∈ ds ++ Notation.zeros (point.toNat - ds.length), c.isDigit := fun c hc =>
    (List.mem_append.mp hc).elim (hd c) isDigit_of_mem_zeros
  have hw' : ds ++ Notation.zeros (point.toNat - ds.length) ≠ [] :=
    List.append_ne_nil_of_left_ne_nil hne _
  refine ⟨pointed _ ['0'] hw' hw isDigit_of_mem_zero, ?_, ?_⟩
  · rw [chars_pointed]
    rfl
  · intro negative
    have hvalue : digitsValue (ds ++ Notation.zeros (point.toNat - ds.length) ++ ['0']) =
        10 ^ (point.toNat - ds.length + 1) * digitsValue ds := by
      rw [List.append_assoc, ← digitsValue_append_zeros, Notation.zeros, Notation.zeros,
        List.replicate_succ']
    rw [decimal_pointed, hvalue, Decimal.nearest_mul_pow_ten]
    congr 2
    rw [List.length_singleton]
    omega

theorem exists_spelling_positional {ds : List Char} (hne : ds ≠ []) (hd : ∀ c ∈ ds, c.isDigit)
    (point : Int) :
    ∃ s : Spelling, Notation.positional ".0" ds point = s.chars ∧ s.Spells ds point := by
  rw [Notation.positional]
  split_ifs with hleast hinside
  · exact exists_spelling_below_one hd hleast
  · exact exists_spelling_inside hne hd (by omega) (by omega)
  · exact exists_spelling_whole hne hd (by omega)

def scaled (d : Char) (fraction : Option (List Char)) (e : Int) (hw : d.isDigit)
    (hf : ∀ fs ∈ fraction, ∀ c ∈ fs, c.isDigit) : Spelling where
  whole := [d]
  fraction := fraction
  exponent := some (decide (e < 0), decimalDigits e.natAbs)
  whole_ne_nil := List.cons_ne_nil d []
  whole_digits := fun _ hc => List.mem_singleton.mp hc ▸ hw
  fraction_digits := hf
  exponent_ne_nil := fun _ h => Option.mem_some.mp h ▸ decimalDigits_ne_nil _
  exponent_digits := fun _ h => Option.mem_some.mp h ▸ fun _ hc => isDigit_of_mem_decimalDigits hc
  marked := .inr rfl

theorem chars_scaled {d : Char} {fraction : Option (List Char)} {e : Int} (hw : d.isDigit)
    (hf : ∀ fs ∈ fraction, ∀ c ∈ fs, c.isDigit) :
    (scaled d fraction e hw hf).chars = d :: fractionChars fraction ++
      'e' :: (if e < 0 then ['-'] else "+".toList) ++ decimalDigits e.natAbs := by
  by_cases he : e < 0 <;> simp [chars, scaled, exponentChars, he]

theorem decimal_scaled {d : Char} {fraction : Option (List Char)} {e : Int} (hw : d.isDigit)
    (hf : ∀ fs ∈ fraction, ∀ c ∈ fs, c.isDigit) :
    (scaled d fraction e hw hf).decimal =
      ⟨digitsValue (d :: fraction.getD []), e - (fraction.getD []).length⟩ := by
  have hvalue : exponentValue (some (decide (e < 0), decimalDigits e.natAbs)) = e := by
    simp only [exponentValue, digitsValue_decimalDigits, decide_eq_true_eq]
    omega
  rw [decimal, scaled, hvalue]
  rfl

theorem exists_spelling_scientific {ds : List Char} (hne : ds ≠ []) (hd : ∀ c ∈ ds, c.isDigit)
    (point : Int) :
    ∃ s : Spelling, Notation.scientific "+" ds point = s.chars ∧ s.Spells ds point := by
  obtain ⟨d, more, rfl⟩ := List.exists_cons_of_ne_nil hne
  have hfirst := hd d List.mem_cons_self
  cases more with
  | nil =>
    have hf : ∀ fs ∈ (none : Option (List Char)), ∀ c ∈ fs, c.isDigit := fun _ h => nomatch h
    refine ⟨scaled d none (point - 1) hfirst hf, (chars_scaled hfirst hf).symm,
      spells_of_decimal ?_⟩
    rw [decimal_scaled]
    simp
  | cons e more =>
    have hf : ∀ fs ∈ some (e :: more), ∀ c ∈ fs, c.isDigit := fun _ h =>
      Option.mem_some.mp h ▸ fun c hc => hd c (List.mem_cons_of_mem d hc)
    refine ⟨scaled d (some (e :: more)) (point - 1) hfirst hf, (chars_scaled hfirst hf).symm,
      spells_of_decimal ?_⟩
    rw [decimal_scaled, Option.getD_some, List.length_cons (a := d)]
    congr 1
    omega

theorem exists_spelling_layout {ds : List Char} (hne : ds ≠ []) (hd : ∀ c ∈ ds, c.isDigit)
    (point : Int) :
    ∃ s : Spelling,
      (if Notation.json.isPositional point then Notation.positional ".0" ds point
        else Notation.scientific "+" ds point) = s.chars ∧ s.Spells ds point := by
  split_ifs
  · exact exists_spelling_positional hne hd point
  · exact exists_spelling_scientific hne hd point

end Spelling

/-- The text of a finite number is a spelling of it. -/
theorem exists_spelling {x : Binary64} (hx : x.isFinite) :
    ∃ s : Spelling, Notation.json.unsigned x = s.chars ∧ s.decimal.nearest x.negative = x := by
  have hread := Binary64.nearest_shortest hx .even
  rw [Notation.unsigned]
  split_ifs with hz
  · -- zero is written by hand
    have hdigit := Spelling.isDigit_of_mem_zero
    refine ⟨.pointed ['0'] ['0'] (List.cons_ne_nil '0' []) hdigit hdigit, ?_, ?_⟩
    · rw [Spelling.chars_pointed]
      simp [Notation.json]
    · have hzero : digitsValue (['0'] ++ ['0']) = 0 := rfl
      rw [Spelling.decimal_pointed, hzero, Decimal.nearest_zero]
      rwa [Binary64.shortest, if_pos hz, Decimal.nearest_zero] at hread
  · have hd : ∀ c ∈ decimalDigits (x.shortest .even).digits, c.isDigit := fun c hc =>
      isDigit_of_mem_decimalDigits hc
    obtain ⟨s, hs, hspells⟩ := Spelling.exists_spelling_layout
      (decimalDigits_ne_nil (x.shortest .even).digits) hd (x.shortest .even).point
    refine ⟨s, hs, ?_⟩
    have hexp : (x.shortest .even).point - (decimalDigits (x.shortest .even).digits).length =
        (x.shortest .even).exponent := by
      rw [Decimal.point]
      omega
    rw [hspells, digitsValue_decimalDigits, hexp]
    exact hread

theorem toLower_of_isDigit {c : Char} (h : c.isDigit) : c.toLower = c := by
  have hle : c.toNat ≤ '9'.toNat := (Char.isDigit_iff_toNat.mp h).2
  refine dif_neg ?_
  rintro ⟨hA, -⟩
  have hge : 'A'.toNat ≤ c.toNat := UInt32.le_iff_toNat_le.mp hA
  exact absurd (hge.trans hle) (by decide)

theorem word_ne_of_isDigit {c d : Char} (h : c.isDigit) (hd : ¬ d.isDigit) (cs ds : List Char) :
    String.ofList ((c :: cs).map Char.toLower) ≠ String.ofList (d :: ds) := by
  intro heq
  have hlist := String.ofList_injective heq
  rw [List.map_cons, toLower_of_isDigit h] at hlist
  exact hd ((List.cons.inj hlist).1 ▸ h)

theorem not_word_of_isDigit {c : Char} (h : c.isDigit) (cs : List Char) :
    String.ofList ((c :: cs).map Char.toLower) ≠ "inf" ∧
    String.ofList ((c :: cs).map Char.toLower) ≠ "infinity" ∧
    String.ofList ((c :: cs).map Char.toLower) ≠ "nan" :=
  ⟨word_ne_of_isDigit h (d := 'i') (by decide) cs ['n', 'f'],
    word_ne_of_isDigit h (d := 'i') (by decide) cs ['n', 'f', 'i', 'n', 'i', 't', 'y'],
    word_ne_of_isDigit h (d := 'n') (by decide) cs ['a', 'n']⟩

theorem Binary64.ofText?_digits {negative : Bool} {c : Char} (h : c.isDigit) (cs : List Char) :
    Binary64.ofText? (String.ofList (if negative then '-' :: c :: cs else c :: cs)) =
      (Decimal.ofChars? (c :: cs)).map (Decimal.nearest negative) := by
  obtain ⟨hinf, hinfinity, hnan⟩ := not_word_of_isDigit h cs
  cases negative
  · rw [Binary64.ofText?, if_neg Bool.false_ne_true, String.toList_ofList]
    split
    next hsigned =>
    -- a digit is no sign
    split at hsigned
    · next hc => exact absurd ((List.cons.inj hc).1 ▸ h) (by decide)
    · next hc => exact absurd ((List.cons.inj hc).1 ▸ h) (by decide)
    · cases hsigned
      simp only [or_self, if_false, hinf, hinfinity, hnan]
  · simp only [Binary64.ofText?, if_true, String.toList_ofList, or_self, if_false, hinf, hinfinity,
      hnan]

theorem Binary64.ofText?_plus {c : Char} (h : c.isDigit) (cs : List Char) :
    Binary64.ofText? (String.ofList ('+' :: c :: cs)) =
      (Decimal.ofChars? (c :: cs)).map (Decimal.nearest false) := by
  obtain ⟨hinf, hinfinity, hnan⟩ := not_word_of_isDigit h cs
  simp only [Binary64.ofText?, String.toList_ofList, or_self, if_false, hinf, hinfinity, hnan]

/-- The JSON text of a finite number reads back as it. -/
theorem Binary64.ofText?_json {x : Binary64} (hx : x.isFinite) :
    Binary64.ofText? (String.ofList (Notation.json.chars x)) = some x := by
  obtain ⟨s, hs, hread⟩ := exists_spelling hx
  obtain ⟨c, cs, hc⟩ := List.exists_cons_of_ne_nil s.whole_ne_nil
  have hdigit : c.isDigit := s.whole_digits c (hc ▸ List.mem_cons_self)
  have hchars : s.chars = c :: (cs ++ (Spelling.fractionChars s.fraction ++
      Spelling.exponentChars s.exponent)) := by
    rw [Spelling.chars, hc, List.cons_append]
  rw [Notation.chars, hs, hchars, Binary64.ofText?_digits hdigit, ← hchars, Spelling.ofChars?_chars,
    Option.map_some, hread]

theorem Notation.isNumeralChar_of_mem_json {x : Binary64} (hx : x.isFinite) {c : Char}
    (h : c ∈ Notation.json.chars x) : isNumeralChar c := by
  obtain ⟨s, hs, -⟩ := exists_spelling hx
  rw [Notation.chars, hs] at h
  split_ifs at h
  · rcases List.mem_cons.mp h with rfl | h
    · decide
    · exact s.isNumeralChar_of_mem_chars h
  · exact s.isNumeralChar_of_mem_chars h

theorem Notation.json_ne_nil {x : Binary64} (hx : x.isFinite) : Notation.json.chars x ≠ [] := by
  obtain ⟨s, hs, -⟩ := exists_spelling hx
  rw [Notation.chars, hs]
  split_ifs
  · exact List.cons_ne_nil _ _
  · exact List.append_ne_nil_of_left_ne_nil s.whole_ne_nil _

theorem Notation.json_ne_intDigits {x : Binary64} (hx : x.isFinite) (n : Int) :
    Notation.json.chars x ≠ intDigits n := by
  intro heq
  obtain ⟨s, hs, -⟩ := exists_spelling hx
  have hmem : ∀ c ∈ s.chars, c ∈ intDigits n := by
    intro c hc
    rw [← heq, Notation.chars, hs]
    split_ifs
    · exact List.mem_cons_of_mem _ hc
    · exact hc
  rcases s.mark_mem_chars with hmark | hmark
  · exact absurd (mem_intDigits (hmem _ hmark)) (by decide)
  · exact absurd (mem_intDigits (hmem _ hmark)) (by decide)

/-- Two finite numbers have one text only if they are the same. -/
theorem Notation.json_injective {x y : Binary64} (hx : x.isFinite) (hy : y.isFinite)
    (h : Notation.json.chars x = Notation.json.chars y) : x = y := by
  have htext := Binary64.ofText?_json hx
  rw [h, Binary64.ofText?_json hy] at htext
  exact (Option.some.inj htext).symm

end FleetDrift.Number
