import FleetDrift.Proofs.Blanks
import FleetDrift.Text.Lowercase

/-! # Lowercase texts
What was put into lowercase once is in lowercase for good, and blanks are neither made nor lost on
the way. Both come down to the table of case mappings: no run has a code point that a run leads to,
and none touches a blank or one of the two letters with rules of their own. -/
namespace FleetDrift.Text

namespace LowerRun

def contains (run : LowerRun) (n : Nat) : Bool :=
  run.first ≤ n && n ≤ run.last && (n - run.first) % run.step = 0

def image (run : LowerRun) : LowerRun where
  first := (run.first + run.shift).toNat
  last := (run.last + run.shift).toNat
  step := run.step
  shift := 0

/-- A check that two runs share no code point: one ends before the other begins, they alternate, or
one is a single code point that the other passes over. -/
def apart (a b : LowerRun) : Bool :=
  Nat.blt a.last b.first || (Nat.blt b.last a.first ||
    ((Nat.beq a.step 2 && (Nat.beq b.step 2 && Nat.beq ((a.first + b.first) % 2) 1)) ||
      (Nat.beq a.first a.last && !b.contains a.first)))

def leadsToChars (run : LowerRun) : Bool :=
  decide (0 ≤ run.first + run.shift) && (Nat.blt run.image.last 0xd800 ||
    (Nat.blt 0xdfff run.image.first && Nat.blt run.image.last 0x110000))

variable {run a b : LowerRun} {n : Nat}

theorem contains_iff : run.contains n = true ↔
    run.first ≤ n ∧ n ≤ run.last ∧ (n - run.first) % run.step = 0 := by
  simp [contains, and_assoc]

theorem applied_eq :
    run.apply? n = if run.contains n then some (n + run.shift).toNat else none := by
  simp only [contains_iff, LowerRun.apply?]

theorem not_contains_of_apart (h : a.apart b = true) (ha : a.contains n = true) :
    b.contains n = false := by
  rw [Bool.eq_false_iff]
  intro hb
  have hn := contains_iff.mp ha
  have hm := contains_iff.mp hb
  simp only [apart, Bool.or_eq_true, Bool.and_eq_true, Bool.not_eq_true', Nat.blt_eq,
    Nat.beq_eq] at h
  rcases h with h | h | ⟨hs, ht, hp⟩ | ⟨hone, hno⟩
  · omega
  · omega
  · rw [hs] at hn
    rw [ht] at hm
    omega
  · have hfirst : n = a.first := by omega
    rw [hfirst, hno] at hb
    cases hb

theorem image_contains (h : run.leadsToChars = true) (hn : run.contains n = true) :
    run.image.contains (n + run.shift).toNat = true := by
  simp only [leadsToChars, Bool.and_eq_true, decide_eq_true_eq] at h
  obtain ⟨hf, hl, hs⟩ := contains_iff.mp hn
  have hsub : (n + run.shift).toNat - (run.first + run.shift).toNat = n - run.first := by omega
  refine contains_iff.mpr ⟨?_, ?_, ?_⟩ <;> simp only [image]
  · omega
  · omega
  · rw [hsub, hs]

theorem isValidChar_of_image_contains (h : run.leadsToChars = true)
    (hn : run.image.contains n = true) : n.isValidChar := by
  simp only [leadsToChars, Bool.and_eq_true, Bool.or_eq_true, decide_eq_true_eq, Nat.blt_eq] at h
  have hm := contains_iff.mp hn
  simp only [Nat.isValidChar]
  omega

end LowerRun

/-- Blanks, and the two letters with rules of their own. -/
def reservedRuns : List LowerRun :=
  ⟨'Σ'.toNat, 'Σ'.toNat, 1, 0⟩ :: ⟨'İ'.toNat, 'İ'.toNat, 1, 0⟩ ::
    blankRanges.map fun range => ⟨range.1, range.2, 1, 0⟩

theorem lowerRuns_leadToChars : lowerRuns.all LowerRun.leadsToChars = true := by decide +kernel

theorem lowerRuns_apart_reserved :
    lowerRuns.all (fun run => reservedRuns.all run.apart) = true := by
  decide +kernel

theorem images_apart_reserved :
    (lowerRuns.map LowerRun.image).all (fun image => reservedRuns.all image.apart) = true := by
  decide +kernel

theorem images_apart_lowerRuns :
    (lowerRuns.map LowerRun.image).all (fun image => lowerRuns.all image.apart) = true := by
  decide +kernel

/-- A code point stays where it is, or a run leads it on. -/
theorem lowerCode_eq_or (runs : List LowerRun) (n : Nat) : lowerCode runs n = n ∨
    ∃ run ∈ runs, run.contains n = true ∧ lowerCode runs n = (n + run.shift).toNat := by
  induction runs with
  | nil => exact .inl rfl
  | cons run rest ih =>
    rw [lowerCode]
    split
    · exact .inl rfl
    · rw [LowerRun.applied_eq]
      by_cases hc : run.contains n = true
      · rw [if_pos hc]
        exact .inr ⟨run, List.mem_cons_self, hc, rfl⟩
      · rw [if_neg hc]
        refine ih.imp id ?_
        rintro ⟨other, hm, ho⟩
        exact ⟨other, List.mem_cons_of_mem run hm, ho⟩

theorem lowerCode_eq_self {runs : List LowerRun} {n : Nat}
    (h : ∀ run ∈ runs, run.contains n = false) : lowerCode runs n = n := by
  rcases lowerCode_eq_or runs n with he | ⟨run, hm, hc, -⟩
  · exact he
  · rw [h run hm] at hc
    cases hc

theorem containsCode_reserved {ranges : CharRanges} {n : Nat} (h : ranges.containsCode n = true) :
    ∃ range ∈ ranges, LowerRun.contains ⟨range.1, range.2, 1, 0⟩ n = true := by
  induction ranges with
  | nil => cases h
  | cons range rest ih =>
    obtain ⟨first, last⟩ := range
    simp only [CharRanges.containsCode, Bool.and_eq_true, Bool.or_eq_true, decide_eq_true_eq] at h
    rcases h.2 with hl | hr
    · exact ⟨_, List.mem_cons_self, LowerRun.contains_iff.mpr ⟨h.1, hl, Nat.mod_one _⟩⟩
    · obtain ⟨range, hm, hc⟩ := ih hr
      exact ⟨range, List.mem_cons_of_mem _ hm, hc⟩

structure Plain (c : Char) : Prop where
  notBlank : isBlank c = false
  notSigma : c ≠ 'Σ'
  notDotted : c ≠ 'İ'

theorem plain_of_apart {run : LowerRun} {c : Char} (h : reservedRuns.all run.apart = true)
    (hc : run.contains c.toNat = true) : Plain c := by
  have hno : ∀ reserved ∈ reservedRuns, reserved.contains c.toNat = false :=
    fun reserved hm => LowerRun.not_contains_of_apart (List.all_eq_true.mp h reserved hm) hc
  refine ⟨?_, ?_, ?_⟩
  · rw [Bool.eq_false_iff]
    intro hb
    obtain ⟨range, hm, hr⟩ := containsCode_reserved hb
    have hmem : ⟨range.1, range.2, 1, 0⟩ ∈ reservedRuns :=
      List.mem_cons_of_mem _ (List.mem_cons_of_mem _ (List.mem_map_of_mem hm))
    rw [hno _ hmem] at hr
    cases hr
  · rintro rfl
    exact absurd (hno _ List.mem_cons_self) (by decide)
  · rintro rfl
    exact absurd (hno _ (List.mem_cons_of_mem _ List.mem_cons_self)) (by decide)

/-- A character stays the same, or a run leads it to one of its images. -/
theorem lowerChar_eq_self_or (c : Char) : lowerChar c = c ∨ ∃ run ∈ lowerRuns,
    run.contains c.toNat = true ∧ run.image.contains (lowerChar c).toNat = true := by
  rcases lowerCode_eq_or lowerRuns c.toNat with h | ⟨run, hm, hc, h⟩
  · rw [lowerChar, h, Char.ofNat_toNat]
    exact .inl rfl
  · have hlead := List.all_eq_true.mp lowerRuns_leadToChars run hm
    have himage := LowerRun.image_contains hlead hc
    have hcode : (lowerChar c).toNat = (c.toNat + run.shift).toNat := by
      rw [lowerChar, h, Char.ofNat,
        dif_pos (LowerRun.isValidChar_of_image_contains hlead himage)]
      rfl
    rw [← hcode] at himage
    exact .inr ⟨run, hm, hc, himage⟩

/-- What lowercase makes of a character: the same one, or one to which no run applies. -/
theorem lowerChar_cases (c : Char) : lowerChar c = c ∨
    Plain c ∧ Plain (lowerChar c) ∧ lowerChar (lowerChar c) = lowerChar c := by
  rcases lowerChar_eq_self_or c with h | ⟨run, hm, hc, himage⟩
  · exact .inl h
  · have hmem : run.image ∈ lowerRuns.map LowerRun.image := List.mem_map_of_mem hm
    refine .inr ⟨?_, ?_, ?_⟩
    · exact plain_of_apart (List.all_eq_true.mp lowerRuns_apart_reserved run hm) hc
    · exact plain_of_apart (List.all_eq_true.mp images_apart_reserved _ hmem) himage
    · have hself : lowerCode lowerRuns (lowerChar c).toNat = (lowerChar c).toNat :=
        lowerCode_eq_self fun other ho => LowerRun.not_contains_of_apart
          (List.all_eq_true.mp (List.all_eq_true.mp images_apart_lowerRuns _ hmem) other ho) himage
      rw [lowerChar, hself, Char.ofNat_toNat]

/-- Lowercase leaves the character alone wherever it stands. -/
structure Settled (c : Char) : Prop where
  fixed : lowerChar c = c
  notSigma : c ≠ 'Σ'
  notDotted : c ≠ 'İ'

/-- What the two letters with rules of their own become. -/
def specialImages : List Char := ['ς', 'σ', 'i', '\u0307']

theorem specialImages_outside :
    specialImages.all (fun c => lowerRuns.all fun run => !run.contains c.toNat) = true := by
  decide +kernel

theorem settled_of_mem_specialImages {c : Char} (h : c ∈ specialImages) : Settled c := by
  have hout : ∀ run ∈ lowerRuns, run.contains c.toNat = false := fun run hm =>
    (Bool.not_eq_true' _).mp (List.all_eq_true.mp
      (List.all_eq_true.mp specialImages_outside c h) run hm)
  have hne : ∀ c ∈ specialImages, c ≠ 'Σ' ∧ c ≠ 'İ' := by simp [specialImages]
  refine ⟨?_, (hne c h).1, (hne c h).2⟩
  rw [lowerChar, lowerCode_eq_self hout, Char.ofNat_toNat]

theorem settled_of_mem_lowerAt {before after : List Char} {c d : Char}
    (h : d ∈ lowerAt before c after) : Settled d := by
  unfold lowerAt at h
  split at h
  · split at h <;> exact settled_of_mem_specialImages (by simp_all [specialImages])
  · next hs =>
    split at h
    · exact settled_of_mem_specialImages (by simp_all [specialImages])
    · next hi =>
      rw [List.mem_singleton] at h
      subst h
      rcases lowerChar_cases c with he | ⟨-, hp, hf⟩
      · rw [he]
        exact ⟨he, hs, hi⟩
      · exact ⟨hf, hp.notSigma, hp.notDotted⟩

theorem isBlank_of_mem_lowerAt {before after : List Char} {c d : Char}
    (h : d ∈ lowerAt before c after) : isBlank d = isBlank c := by
  have hother : isBlank 'ς' = isBlank 'Σ' ∧ isBlank 'σ' = isBlank 'Σ' ∧
      isBlank 'i' = isBlank 'İ' ∧ isBlank '\u0307' = isBlank 'İ' := by decide +kernel
  unfold lowerAt at h
  split at h
  · next hs => split at h <;> simp_all
  · split at h
    · next hi =>
      simp only [List.mem_cons, List.not_mem_nil, or_false] at h
      rcases h with rfl | rfl <;> simp_all
    · rw [List.mem_singleton] at h
      subst h
      rcases lowerChar_cases c with he | ⟨hc, hp, -⟩
      · rw [he]
      · rw [hp.notBlank, hc.notBlank]

theorem lowerAt_of_settled {c : Char} (h : Settled c) (before after : List Char) :
    lowerAt before c after = [c] := by
  rw [lowerAt, if_neg h.notSigma, if_neg h.notDotted, h.fixed]

theorem settled_of_mem_lowerFrom {before cs : List Char} {d : Char}
    (h : d ∈ lowerFrom before cs) : Settled d := by
  induction cs generalizing before with
  | nil => cases h
  | cons c after ih =>
    rcases List.mem_append.mp h with h | h
    · exact settled_of_mem_lowerAt h
    · exact ih h

theorem lowerFrom_of_settled {cs : List Char} (h : ∀ c ∈ cs, Settled c) (before : List Char) :
    lowerFrom before cs = cs := by
  induction cs generalizing before with
  | nil => rfl
  | cons c after ih =>
    rw [lowerFrom, lowerAt_of_settled (h c List.mem_cons_self),
      ih (fun d hd => h d (List.mem_cons_of_mem c hd))]
    rfl

theorem mem_lowerFrom {c d : Char} (h : ∀ before after, d ∈ lowerAt before c after)
    {before cs : List Char} (hc : c ∈ cs) : d ∈ lowerFrom before cs := by
  induction cs generalizing before with
  | nil => cases hc
  | cons e after ih =>
    rw [lowerFrom, List.mem_append]
    rcases List.mem_cons.mp hc with rfl | hc
    · exact .inl (h before after)
    · exact .inr (ih hc)

@[simp] theorem lowercase_lowercase (s : String) : lowercase (lowercase s) = lowercase s := by
  simp only [lowercase, String.toList_ofList, lowerChars]
  rw [lowerFrom_of_settled fun _ h => settled_of_mem_lowerFrom h]

theorem lowerAt_ne_nil (before after : List Char) (c : Char) : lowerAt before c after ≠ [] := by
  unfold lowerAt
  split
  · split <;> simp
  · split <;> simp

theorem lowercase_eq_empty_iff {s : String} : lowercase s = "" ↔ s = "" := by
  rw [← String.toList_inj, ← String.toList_inj, lowercase, String.toList_ofList]
  cases s.toList with
  | nil => rfl
  | cons c after => simp [lowerChars, lowerFrom, lowerAt_ne_nil]

/-- The first character of a lowercase text is blank only where the text began with a blank. -/
theorem head_lowerFrom {before cs : List Char} (h : ∀ c ∈ cs.head?, isBlank c = false) :
    ∀ d ∈ (lowerFrom before cs).head?, isBlank d = false := by
  intro d hd
  cases cs with
  | nil => cases hd
  | cons c after =>
    rw [lowerFrom, List.head?_append_of_ne_nil _ (lowerAt_ne_nil before after c)] at hd
    rw [isBlank_of_mem_lowerAt (List.mem_of_mem_head? hd)]
    exact h c rfl

theorem getLast_lowerFrom {before cs : List Char} (h : ∀ c ∈ cs.getLast?, isBlank c = false) :
    ∀ d ∈ (lowerFrom before cs).getLast?, isBlank d = false := by
  induction cs generalizing before with
  | nil => exact fun d hd => nomatch hd
  | cons c after ih =>
    intro d hd
    rw [lowerFrom] at hd
    by_cases hn : after = []
    · subst hn
      rw [lowerFrom, List.append_nil] at hd
      rw [isBlank_of_mem_lowerAt (List.mem_of_mem_getLast? hd)]
      exact h c rfl
    · obtain ⟨e, more, rfl⟩ := List.exists_cons_of_ne_nil hn
      have hne : lowerFrom (c :: before) (e :: more) ≠ [] := by
        rw [lowerFrom]
        simp [lowerAt_ne_nil]
      rw [List.getLast?_append_of_ne_nil _ hne] at hd
      exact ih (by simpa using h) d hd

theorem trimmed_lowercase {s : String} (h : Trimmed s.toList) : Trimmed (lowercase s).toList := by
  rw [lowercase, String.toList_ofList]
  exact ⟨head_lowerFrom h.first, getLast_lowerFrom h.last⟩

end FleetDrift.Text
