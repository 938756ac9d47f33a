import FleetDrift.Proofs.WellFormedReading

/-!
# Numbers that are read back from their text

A reader of numbers stops where the text of a value ends, so what it gives does not depend on what
follows. Whole numbers are read back as they are. Real ones are read in rounded steps, and whether
one of them comes back is a matter of its text.
-/

namespace FleetDrift

open Json (Reader)
open Number (isNumeralChar decimalDigits)

namespace Json

variable {α β : Type} {rest : List Char}

/-- What follows a value: the end of the text, of a list, of an object or of an item. -/
def Ended (rest : List Char) : Prop := ∀ c ∈ rest.head?, c ∈ [',', ']', '\x7d']

theorem ended_nil : Ended [] := nofun

theorem ended_cons {c : Char} (h : c ∈ [',', ']', '\x7d']) (rest : List Char) :
    Ended (c :: rest) := fun _ hd => Option.mem_some.mp hd ▸ h

theorem Ended.not_isDigit {c : Char} {cs : List Char} (h : Ended (c :: cs)) :
    ¬ c.isDigit = true := by
  have hmem := h c rfl
  simp only [List.mem_cons, List.not_mem_nil, or_false] at hmem
  rcases hmem with rfl | rfl | rfl <;> decide

/-- A text that follows does not change what the reader gives. -/
def Local (reader : Reader α) : Prop :=
  ∀ ⦃cs x left⦄, reader cs = .ok (x, left) →
    left <:+ cs ∧ ∀ ⦃rest⦄, Ended rest → reader (cs ++ rest) = .ok (x, left ++ rest)

theorem Local.bind {first : Reader α} {more : α × List Char → Except Stop (β × List Char)}
    (hfirst : Local first) (hmore : ∀ a, Local fun cs => more (a, cs)) :
    Local fun cs => first cs >>= more := by
  intro cs y left h
  obtain ⟨⟨x, middle⟩, hx, hy⟩ := bind_eq_ok.mp h
  obtain ⟨hmiddle, hx⟩ := hfirst hx
  obtain ⟨hleft, hy⟩ := hmore x hy
  refine ⟨hleft.trans hmiddle, fun rest hrest => ?_⟩
  exact bind_eq_ok.mpr ⟨_, hx hrest, hy hrest⟩

theorem digits_append (cs : List Char) (hr : Ended rest) :
    (cs ++ rest).takeWhile Char.isDigit = cs.takeWhile Char.isDigit ∧
      (cs ++ rest).dropWhile Char.isDigit = cs.dropWhile Char.isDigit ++ rest := by
  induction cs with
  | nil =>
    cases rest with
    | nil => exact ⟨rfl, rfl⟩
    | cons c rest =>
      exact ⟨List.takeWhile_cons_of_neg hr.not_isDigit, List.dropWhile_cons_of_neg hr.not_isDigit⟩
  | cons c cs ih =>
    by_cases hc : c.isDigit = true
    · simp only [List.cons_append, List.takeWhile_cons_of_pos hc, List.dropWhile_cons_of_pos hc, ih,
        and_self]
    · simp only [List.cons_append, List.takeWhile_cons_of_neg hc, List.dropWhile_cons_of_neg hc,
        and_self]

theorem local_readDigits : Local readDigits := by
  intro cs ds left h
  rcases cs with _ | ⟨c, cs⟩
  · cases h
  · rw [readDigits] at h
    split_ifs at h with hc
    · cases h
      refine ⟨List.dropWhile_suffix _, fun rest hrest => ?_⟩
      obtain ⟨htake, hdrop⟩ := digits_append (c :: cs) hrest
      rw [List.cons_append] at htake hdrop ⊢
      rw [readDigits, if_pos hc, htake, hdrop]
    · cases h

theorem readWhole_zero (hr : Ended rest) : readWhole ('0' :: rest) = .ok (['0'], rest) := by
  cases rest with
  | nil => rfl
  | cons c rest => simp only [readWhole, if_true, if_neg hr.not_isDigit]

theorem local_readWhole : Local readWhole := by
  intro cs ds left h
  rcases cs with _ | ⟨c, cs⟩
  · cases h
  · by_cases hzero : c = '0'
    · subst hzero
      rcases cs with _ | ⟨d, cs⟩
      · cases h
        exact ⟨List.nil_suffix, fun rest hrest => readWhole_zero hrest⟩
      · simp only [readWhole, if_true] at h
        split_ifs at h with hd
        · cases h
        · cases h
          refine ⟨List.suffix_cons _ _, fun rest hrest => ?_⟩
          simp only [List.cons_append, readWhole, if_true, if_neg hd]
    · simp only [readWhole, if_neg hzero] at h
      split_ifs at h with hc
      · cases h
        refine ⟨List.dropWhile_suffix _, fun rest hrest => ?_⟩
        obtain ⟨htake, hdrop⟩ := digits_append (c :: cs) hrest
        rw [List.cons_append] at htake hdrop ⊢
        simp only [readWhole, if_neg hzero, if_pos hc, htake, hdrop]
      · cases h

theorem readFraction_of_ne {cs : List Char} (h : ∀ c ∈ cs.head?, c ≠ '.') :
    readFraction cs = .ok (none, cs) := by
  unfold readFraction
  split
  · exact absurd rfl (h '.' rfl)
  · rfl

theorem local_readFraction : Local readFraction := by
  have hend : ∀ {rest}, Ended rest → ∀ c ∈ rest.head?, c ≠ '.' := by
    intro rest hrest c hc heq
    exact absurd (hrest c hc) (heq ▸ by decide)
  intro cs fraction left h
  rcases cs with _ | ⟨c, cs⟩
  · cases h
    exact ⟨List.nil_suffix, fun rest hrest => readFraction_of_ne (hend hrest)⟩
  · by_cases hc : c = '.'
    · subst hc
      obtain ⟨⟨ds, more⟩, hds, h⟩ := bind_eq_ok.mp h
      cases h
      obtain ⟨hsuffix, hds⟩ := local_readDigits hds
      refine ⟨hsuffix.trans (List.suffix_cons _ _), fun rest hrest => ?_⟩
      exact bind_eq_ok.mpr ⟨_, hds hrest, rfl⟩
    · have hne : ∀ d ∈ (c :: cs).head?, d ≠ '.' := fun d hd => Option.mem_some.mp hd ▸ hc
      rw [readFraction_of_ne hne] at h
      cases h
      exact ⟨List.suffix_refl _, fun rest hrest => readFraction_of_ne hne⟩

theorem readSign_suffix (cs : List Char) : (readSign cs).2 <:+ cs := by
  unfold readSign
  split
  · exact List.suffix_cons _ _
  · exact List.suffix_cons _ _
  · exact List.suffix_refl _

theorem readSign_append (c : Char) (cs rest : List Char) :
    readSign (c :: cs ++ rest) = ((readSign (c :: cs)).1, (readSign (c :: cs)).2 ++ rest) := by
  by_cases hminus : c = '-'
  · subst hminus
    rfl
  · by_cases hplus : c = '+'
    · subst hplus
      rfl
    · simp [readSign, hminus, hplus]

theorem readExponent_of_ne {cs : List Char} (h : ∀ c ∈ cs.head?, ¬ (c = 'e' ∨ c = 'E')) :
    readExponent cs = .ok (none, cs) := by
  cases cs with
  | nil => rfl
  | cons c cs => rw [readExponent, if_neg (h c rfl)]

theorem local_readExponent : Local readExponent := by
  have hend : ∀ {rest}, Ended rest → ∀ c ∈ rest.head?, ¬ (c = 'e' ∨ c = 'E') := by
    intro rest hrest c hc heq
    rcases heq with heq | heq <;> exact absurd (hrest c hc) (heq ▸ by decide)
  intro cs exponent left h
  rcases cs with _ | ⟨c, cs⟩
  · cases h
    exact ⟨List.nil_suffix, fun rest hrest => readExponent_of_ne (hend hrest)⟩
  · by_cases hc : c = 'e' ∨ c = 'E'
    · rw [readExponent, if_pos hc] at h
      obtain ⟨⟨ds, more⟩, hds, h⟩ := bind_eq_ok.mp h
      cases h
      rcases cs with _ | ⟨d, cs⟩
      · cases hds
      obtain ⟨hsuffix, hds⟩ := local_readDigits hds
      refine ⟨(hsuffix.trans (readSign_suffix _)).trans (List.suffix_cons _ _), ?_⟩
      intro rest hrest
      rw [List.cons_append, readExponent, if_pos hc, readSign_append]
      exact bind_eq_ok.mpr ⟨_, hds hrest, rfl⟩
    · have hne : ∀ d ∈ (c :: cs).head?, ¬ (d = 'e' ∨ d = 'E') :=
        fun d hd => Option.mem_some.mp hd ▸ hc
      rw [readExponent_of_ne hne] at h
      cases h
      exact ⟨List.suffix_refl _, fun rest hrest => readExponent_of_ne hne⟩

theorem local_realNumeral (negative : Bool) (whole : List Char) (fraction : Option (List Char))
    (exponent : Option (Bool × List Char)) :
    Local (realNumeral negative whole fraction exponent) := by
  intro cs n left h
  simp only [realNumeral] at h ⊢
  split at h
  · cases h
  · split at h
    · cases h
      exact ⟨List.suffix_refl _, fun rest _ => rfl⟩
    · cases h

theorem local_ok (x : α) : Local fun cs => .ok (x, cs) := by
  intro cs y left h
  cases h
  exact ⟨List.suffix_refl _, fun rest hrest => rfl⟩

theorem local_readNumeral (negative : Bool) : Local (readNumeral negative) := by
  refine Local.bind local_readWhole fun whole => Local.bind local_readFraction fun fraction =>
    Local.bind local_readExponent fun exponent => ?_
  dsimp only
  split_ifs
  · exact local_realNumeral _ _ _ _
  · exact local_ok _
  · exact local_realNumeral _ _ _ _
  · exact local_ok _
  · exact local_realNumeral _ _ _ _

/-- A scalar that is a number is read from the characters of the number alone. -/
theorem readScalar_append {cs left : List Char} {n : Numeral}
    (h : readScalar cs = .ok (.number n, left)) :
    left <:+ cs ∧ ∀ ⦃rest⦄, Ended rest →
      readScalar (cs ++ rest) = .ok (.number n, left ++ rest) := by
  rcases cs with _ | ⟨c, cs⟩
  · cases h
  · simp only [List.cons_append]
    unfold readScalar at h ⊢
    dsimp only at h ⊢
    split_ifs at h ⊢ with hnull htrue hfalse hminus hdigit
    · obtain ⟨more, -, h⟩ := bind_eq_ok.mp h
      cases h
    · obtain ⟨more, -, h⟩ := bind_eq_ok.mp h
      cases h
    · obtain ⟨more, -, h⟩ := bind_eq_ok.mp h
      cases h
    · obtain ⟨⟨m, more⟩, hm, h⟩ := bind_eq_ok.mp h
      cases h
      obtain ⟨hsuffix, hm⟩ := local_readNumeral true hm
      refine ⟨hsuffix.trans (List.suffix_cons _ _), fun rest hrest => ?_⟩
      exact bind_eq_ok.mpr ⟨_, hm hrest, rfl⟩
    · obtain ⟨⟨m, more⟩, hm, h⟩ := bind_eq_ok.mp h
      cases h
      obtain ⟨hsuffix, hm⟩ := local_readNumeral false hm
      exact ⟨hsuffix, fun rest hrest => bind_eq_ok.mpr ⟨_, hm hrest, rfl⟩⟩
    · obtain ⟨⟨s, more⟩, -, h⟩ := bind_eq_ok.mp h
      cases h
    · cases h

end Json

namespace Number

/-- No number begins with a zero but zero itself. -/
theorem head?_decimalDigits {n : Nat} (hn : n ≠ 0) : (decimalDigits n).head? ≠ some '0' := by
  induction n using Nat.strong_induction_on with
  | _ n ih =>
    by_cases hlt : n < 10
    · have hall : ∀ k : Fin 10, k.val ≠ 0 → Nat.digitChar k.val ≠ '0' := by decide
      rw [decimalDigits, Nat.toDigits_of_lt_base hlt]
      exact fun h => hall ⟨n, hlt⟩ hn (Option.some.inj h)
    · have hsmaller : n / 10 < n := by omega
      have hpos : n / 10 ≠ 0 := by omega
      have hne : decimalDigits (n / 10) ≠ [] := decimalDigits_ne_nil _
      rw [decimalDigits, Nat.toDigits_of_base_le (by decide) (by omega), ← decimalDigits,
        List.head?_append_of_ne_nil _ hne]
      exact ih _ hsmaller hpos

end Number

namespace Json

theorem readWhole_decimalDigits (n : Nat) :
    readWhole (decimalDigits n) = .ok (decimalDigits n, []) := by
  have hdigits : ∀ c ∈ decimalDigits n, c.isDigit = true :=
    fun c hc => Number.isDigit_of_mem_decimalDigits hc
  by_cases hn : n = 0
  · subst hn
    rfl
  · have hhead := Number.head?_decimalDigits hn
    obtain ⟨c, cs, hc⟩ := List.exists_cons_of_ne_nil (Number.decimalDigits_ne_nil n)
    have htake := List.takeWhile_eq_self_iff.mpr hdigits
    have hdrop := List.dropWhile_eq_nil_iff.mpr hdigits
    rw [hc] at hdigits hhead htake hdrop ⊢
    have hzero : c ≠ '0' := fun h => hhead (congrArg some h)
    simp only [readWhole, if_neg hzero, if_pos (hdigits c List.mem_cons_self), htake, hdrop]

theorem readNumeral_decimalDigits {n : Nat} (h : n < 0x10000000000000000) :
    readNumeral false (decimalDigits n) = .ok (.whole n, []) := by
  rw [readNumeral, readWhole_decimalDigits]
  simp [bind, Except.bind, readFraction, readExponent, h]

theorem readNumeral_negative {n : Nat} (hpos : 0 < n) (h : n ≤ 0x8000000000000000) :
    readNumeral true (decimalDigits n) = .ok (.whole (-(n : Int)), []) := by
  rw [readNumeral, readWhole_decimalDigits]
  simp [bind, Except.bind, readFraction, readExponent, h, hpos]

theorem readScalar_digits {cs : List Char} {n : Numeral} (hdigit : cs.head?.all Char.isDigit = true)
    (h : readNumeral false cs = .ok (n, [])) : readScalar cs = .ok (.number n, []) := by
  rcases cs with _ | ⟨c, cs⟩
  · cases h
  · have hc : c.isDigit = true := hdigit
    have hne : ∀ d : Char, d.isDigit = false → c ≠ d := by
      rintro d hd rfl
      exact Bool.false_ne_true (hd.symm.trans hc)
    rw [readScalar, if_neg (hne 'n' rfl), if_neg (hne 't' rfl), if_neg (hne 'f' rfl),
      if_neg (hne '-' rfl), if_pos hc]
    exact bind_eq_ok.mpr ⟨_, h, rfl⟩

theorem readScalar_minus {cs : List Char} {n : Numeral} (h : readNumeral true cs = .ok (n, [])) :
    readScalar ('-' :: cs) = .ok (.number n, []) :=
  bind_eq_ok.mpr ⟨_, h, rfl⟩

theorem readScalar_whole {n : Int} (h : (Numeral.whole n).WellFormed) :
    readScalar (Numeral.whole n).chars = .ok (.number (.whole n), []) := by
  rw [Numeral.WellFormed] at h
  rw [Numeral.chars, Number.intDigits]
  split_ifs with hneg
  · have hread := readNumeral_negative (n := n.natAbs) (by omega) (by omega)
    have habs : -(n.natAbs : Int) = n := by omega
    rw [habs] at hread
    exact readScalar_minus hread
  · have hread := readNumeral_decimalDigits (n := n.natAbs) (by omega)
    have habs : (n.natAbs : Int) = n := by omega
    rw [habs] at hread
    refine readScalar_digits ?_ hread
    rw [Option.all_eq_true]
    exact fun c hc => Number.isDigit_of_mem_decimalDigits (List.mem_of_head? hc)

def Numeral.ReadsBack (n : Numeral) : Prop := Value.read (Value.number n).print = .ok (.number n)

theorem isSpace_iff {c : Char} : isSpace c = true ↔ c = ' ' ∨ c = '\n' ∨ c = '\t' ∨ c = '\r' := by
  simp [isSpace, or_assoc]

theorem isSpace_of_isNumeralChar {c : Char} (h : isNumeralChar c = true) : isSpace c = false := by
  rw [Bool.eq_false_iff]
  intro hspace
  rcases isSpace_iff.mp hspace with rfl | rfl | rfl | rfl <;> exact absurd h (by decide)

theorem skipSpaces_cons {c : Char} (h : isSpace c = false) (cs : List Char) :
    skipSpaces (c :: cs) = c :: cs :=
  List.dropWhile_cons_of_neg (by simp [h])

theorem readValue_cons (depth : Nat) {c : Char} {cs : List Char} (hspace : isSpace c = false)
    (hlist : c ≠ '[') (hobject : c ≠ '\x7b') :
    readValue depth (c :: cs) = readScalar (c :: cs) := by
  cases depth with
  | zero =>
    rw [readValue, skipSpaces_cons hspace]
    simp only [if_neg hlist, if_neg hobject]
  | succ depth =>
    rw [readValue, skipSpaces_cons hspace]
    simp only [if_neg hlist, if_neg hobject]

theorem Numeral.exists_first {n : Numeral} (hn : n.Finite) :
    ∃ c cs, n.chars = c :: cs ∧ isSpace c = false ∧ c ≠ '[' ∧ c ≠ '\x7b' := by
  obtain ⟨c, cs, hc⟩ := List.exists_cons_of_ne_nil (Numeral.chars_ne_nil hn)
  have hchar : isNumeralChar c = true :=
    Numeral.isNumeralChar_of_mem_chars hn (hc ▸ List.mem_cons_self)
  have hne : ∀ d : Char, isNumeralChar d = false → c ≠ d := by
    rintro d hd rfl
    exact Bool.false_ne_true (hd.symm.trans hchar)
  exact ⟨c, cs, hc, isSpace_of_isNumeralChar hchar, hne '[' rfl, hne '\x7b' rfl⟩

theorem readValue_numeral (depth : Nat) {n : Numeral} (hn : n.Finite) (rest : List Char) :
    readValue depth (n.chars ++ rest) = readScalar (n.chars ++ rest) := by
  obtain ⟨c, cs, hc, hspace, hlist, hobject⟩ := n.exists_first hn
  rw [hc, List.cons_append]
  exact readValue_cons depth hspace hlist hobject

/-- Nothing of its text is left over when a number was read back. -/
theorem Numeral.readsBack_iff {n : Numeral} (hn : n.Finite) :
    n.ReadsBack ↔ readScalar n.chars = .ok (.number n, []) := by
  have hvalue := readValue_numeral maxDepth hn []
  rw [List.append_nil] at hvalue
  rw [ReadsBack, Value.read, readWholeText_eq_ok_iff, Value.print, String.toList_ofList,
    Value.chars, hvalue]
  constructor
  · rintro ⟨left, hread, hleft⟩
    have hsuffix := (readScalar_append hread).1
    -- what is left are blanks, but the text has none
    have hnil : left = [] := by
      rw [List.eq_nil_iff_forall_not_mem]
      intro c hc
      have hchar : isNumeralChar c = true := isNumeralChar_of_mem_chars hn (hsuffix.subset hc)
      exact Bool.false_ne_true ((isSpace_of_isNumeralChar hchar).symm.trans (hleft c hc))
    rw [← hnil]
    exact hread
  · intro hread
    exact ⟨[], hread, List.forall_mem_nil _⟩

theorem Numeral.readsBack_whole {n : Int} (h : (Numeral.whole n).WellFormed) :
    (Numeral.whole n).ReadsBack :=
  (readsBack_iff h.finite).mpr (readScalar_whole h)

theorem readValue_readsBack (depth : Nat) {n : Numeral} (hn : n.Finite) (h : n.ReadsBack)
    {rest : List Char} (hr : Ended rest) :
    readValue depth ((Value.number n).chars ++ rest) = .ok (.number n, rest) := by
  have hread := (Numeral.readsBack_iff hn).mp h
  rw [Value.chars, readValue_numeral depth hn]
  exact (readScalar_append hread).2 hr

end Json

end FleetDrift
