import FleetDrift.Text.Blank
import Mathlib.Data.List.DropRight
import Mathlib.Data.List.TakeWhile

/-! # Trimmed texts
A text without blanks at either end stays as it is when it is trimmed again. -/
namespace FleetDrift.Text

theorem trimRight_eq (cs : List Char) : trimRight cs = cs.rdropWhile isBlank := rfl

theorem dropWhile_trimRight {cs : List Char} (h : cs.dropWhile isBlank = cs) :
    (trimRight cs).dropWhile isBlank = trimRight cs := by
  rw [trimRight_eq, List.dropWhile_eq_self_iff]
  intro hl
  have hp := List.rdropWhile_prefix isBlank (l := cs)
  rw [hp.getElem hl]
  exact List.dropWhile_eq_self_iff.mp h (Nat.lt_of_lt_of_le hl hp.length_le)

theorem dropWhile_trimChars (cs : List Char) :
    (trimChars cs).dropWhile isBlank = trimChars cs :=
  dropWhile_trimRight (List.dropWhile_idempotent isBlank _)

theorem trimChars_idempotent (cs : List Char) : trimChars (trimChars cs) = trimChars cs := by
  rw [trimChars, dropWhile_trimChars, trimChars, trimRight_eq, trimRight_eq,
    List.rdropWhile_idempotent]

@[simp] theorem trim_trim (s : String) : trim (trim s) = trim s := by
  simp [trim, trimChars_idempotent]

structure Trimmed (cs : List Char) : Prop where
  first : ∀ c ∈ cs.head?, isBlank c = false
  last : ∀ c ∈ cs.getLast?, isBlank c = false

theorem Trimmed.trimChars_eq {cs : List Char} (h : Trimmed cs) : trimChars cs = cs := by
  have hd : cs.dropWhile isBlank = cs := by
    cases cs with
    | nil => rfl
    | cons c rest => rw [List.dropWhile_cons_of_neg (by simp [h.first c rfl])]
  rw [trimChars, hd, trimRight_eq, List.rdropWhile_eq_self_iff]
  intro hne
  rw [h.last _ (List.getLast_mem_getLast? hne)]
  exact Bool.false_ne_true

theorem trimmed_trimChars (cs : List Char) : Trimmed (trimChars cs) := by
  constructor
  · intro c hc
    have h := List.head?_dropWhile_not isBlank (trimChars cs)
    rw [dropWhile_trimChars, Option.mem_def.mp hc] at h
    exact h
  · intro c hc
    obtain ⟨hne, rfl⟩ := List.mem_getLast?_eq_getLast hc
    exact Bool.eq_false_iff.mpr (List.rdropWhile_last_not isBlank (cs.dropWhile isBlank) hne)

theorem trimmed_nil : Trimmed [] where
  first _ h := nomatch h
  last _ h := nomatch h

theorem Trimmed.append {cs ds : List Char} {c : Char} (hcs : Trimmed cs) (hds : Trimmed ds)
    (hne : ds ≠ []) (hc : isBlank c = false) : Trimmed (cs ++ c :: ds) := by
  constructor
  · intro d hd
    cases cs with
    | nil =>
      cases hd
      exact hc
    | cons e rest => exact hcs.first d hd
  · intro d hd
    rw [List.getLast?_append_of_ne_nil cs (List.cons_ne_nil c ds), List.getLast?_cons,
      List.getLast?_eq_some_getLast hne] at hd
    exact hds.last d (List.getLast?_eq_some_getLast hne ▸ hd)

theorem trim_eq_self {s : String} (h : Trimmed s.toList) : trim s = s := by
  rw [trim, h.trimChars_eq, String.ofList_toList]

theorem trimmed_trim (s : String) : Trimmed (trim s).toList := by
  rw [trim, String.toList_ofList]
  exact trimmed_trimChars s.toList

/-- Only blanks are trimmed away altogether. -/
theorem isBlank_of_trim_eq_empty {s : String} (h : trim s = "") :
    ∀ c ∈ s.toList, isBlank c = true := by
  have hkept : trimChars s.toList = [] := by
    simpa only [trim, String.ofList_eq_empty_iff] using h
  rw [trimChars, trimRight_eq, List.rdropWhile_eq_nil_iff] at hkept
  have hfirst := List.head?_dropWhile_not isBlank s.toList
  cases hdrop : s.toList.dropWhile isBlank with
  | nil => exact List.dropWhile_eq_nil_iff.mp hdrop
  | cons c rest =>
    rw [hdrop] at hkept hfirst
    have hblank : isBlank c = true := hkept c List.mem_cons_self
    simp [hblank] at hfirst

end FleetDrift.Text
