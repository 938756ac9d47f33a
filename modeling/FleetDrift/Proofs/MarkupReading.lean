import FleetDrift.Render.Markup
import Mathlib.Data.List.Basic

/-! # Reading markup
A page is read as tags and characters. A tag reaches to the next closing bracket, so no tag may hold
one. Outside of tags an entity stands for its character, and all else for itself: what was written
as text never gives a tag, a bracket or a quote. -/
namespace FleetDrift.Render

inductive Item where
  | tag (s : String)
  | char (c : Char)
  deriving DecidableEq, Repr

def Item.chars : Item → List Char
  | tag s => '<' :: s.toList ++ ['>']
  | char c => entityChars c

def Item.tag? : Item → Option String
  | tag s => some s
  | char _ => none

def printItems (items : List Item) : List Char := items.flatMap Item.chars

def tagsOf (items : List Item) : List String := items.filterMap Item.tag?

theorem tagsOf_tag (s : String) (items : List Item) :
    tagsOf (.tag s :: items) = s :: tagsOf items :=
  List.filterMap_cons_some rfl

theorem tagsOf_char (c : Char) (items : List Item) : tagsOf (.char c :: items) = tagsOf items :=
  List.filterMap_cons_none rfl

/-- Characters, and the names of their entities. -/
def entityNames : List (Char × List Char) :=
  [('"', ['q', 'u', 'o', 't', ';']), ('&', ['a', 'm', 'p', ';']), ('\'', ['#', '0', '3', '9', ';']),
   ('<', ['l', 't', ';']), ('>', ['g', 't', ';'])]

def readItems : List Char → List Item
  | [] => []
  | c :: cs =>
    if c = '<' then
      .tag (String.ofList (cs.takeWhile (· ≠ '>'))) :: readItems ((cs.dropWhile (· ≠ '>')).drop 1)
    else if c = '&' then
      match entityNames.find? fun e => e.2.isPrefixOf cs with
      | some e => .char e.1 :: readItems (cs.drop e.2.length)
      | none => .char '&' :: readItems cs
    else .char c :: readItems cs
termination_by cs => cs.length
decreasing_by
  · have hle := (List.dropWhile_suffix (p := fun x : Char => decide (x ≠ '>')) (l := cs)).length_le
    simp only [List.length_drop, List.length_cons]
    omega
  · simp only [List.length_drop, List.length_cons]
    omega
  · simp
  · simp

variable {items : List Item} {rest : List Char}

theorem entityChars_cases (c : Char) :
    (∃ name, (c, name) ∈ entityNames ∧ entityChars c = '&' :: name) ∨
      c ∉ ['"', '&', '\'', '<', '>'] ∧ entityChars c = [c] := by
  unfold entityChars
  split
  · exact .inl ⟨_, by decide, rfl⟩
  · exact .inl ⟨_, by decide, rfl⟩
  · exact .inl ⟨_, by decide, rfl⟩
  · exact .inl ⟨_, by decide, rfl⟩
  · exact .inl ⟨_, by decide, rfl⟩
  · next hquote hamp hapostrophe hless hgreater =>
    refine .inr ⟨?_, rfl⟩
    simp only [List.mem_cons, List.not_mem_nil, or_false, not_or]
    exact ⟨hquote, hamp, hapostrophe, hless, hgreater⟩

/-- No name of an entity begins with another. -/
theorem find?_entityNames {c : Char} {name : List Char} (h : (c, name) ∈ entityNames) :
    (entityNames.find? fun e => e.2.isPrefixOf (name ++ rest)) = some (c, name) := by
  simp only [entityNames, List.mem_cons, Prod.mk.injEq, List.not_mem_nil, or_false] at h
  rcases h with ⟨rfl, rfl⟩ | ⟨rfl, rfl⟩ | ⟨rfl, rfl⟩ | ⟨rfl, rfl⟩ | ⟨rfl, rfl⟩
  all_goals simp [entityNames]

theorem readItems_char (c : Char) (rest : List Char) :
    readItems (entityChars c ++ rest) = .char c :: readItems rest := by
  rcases entityChars_cases c with ⟨name, hname, hc⟩ | ⟨hplain, hc⟩
  · rw [hc, List.cons_append, readItems, if_neg (by decide), if_pos rfl, find?_entityNames hname]
    simp only [List.drop_left]
  · simp only [List.mem_cons, List.not_mem_nil, or_false, not_or] at hplain
    rw [hc, List.singleton_append, readItems, if_neg hplain.2.2.2.1, if_neg hplain.2.1]

theorem readItems_tag {s : String} (h : '>' ∉ s.toList) (rest : List Char) :
    readItems ((Item.tag s).chars ++ rest) = .tag s :: readItems rest := by
  have hinside : ∀ c ∈ s.toList, decide (c ≠ '>') = true := by
    intro c hc
    rw [decide_eq_true_eq]
    rintro rfl
    exact h hc
  rw [Item.chars, List.cons_append, List.cons_append, List.append_assoc, readItems, if_pos rfl,
    List.takeWhile_append_of_pos hinside, List.dropWhile_append_of_pos hinside]
  simp

/-- What was printed is read back, if no tag holds the bracket that would end it. -/
theorem readItems_printItems (h : ∀ t ∈ tagsOf items, '>' ∉ t.toList) :
    readItems (printItems items) = items := by
  -- each item is read off the front, whatever follows it
  induction items with
  | nil =>
    rw [printItems, List.flatMap_nil, readItems]
  | cons item items ih =>
    rw [printItems, List.flatMap_cons]
    cases item with
    | tag s =>
      rw [tagsOf_tag, List.forall_mem_cons] at h
      rw [readItems_tag h.1, ← printItems, ih h.2]
    | char c =>
      rw [tagsOf_char] at h
      rw [Item.chars, readItems_char, ← printItems, ih h]

def isMark (c : Char) : Bool := c ∈ ['<', '>', '"', '\'']

def marks (cs : List Char) : List Char := cs.filter isMark

theorem marks_entityChars (c : Char) : marks (entityChars c) = [] := by
  rcases entityChars_cases c with ⟨name, hname, hc⟩ | ⟨hplain, hc⟩
  · rw [hc]
    have hall : ∀ e ∈ entityNames, marks ('&' :: e.2) = [] := by decide
    exact hall _ hname
  · rw [hc, marks, List.filter_eq_nil_iff]
    simp only [List.mem_singleton, isMark, decide_eq_true_eq]
    rintro _ rfl hmark
    simp only [List.mem_cons, List.not_mem_nil, or_false, not_or] at hplain hmark
    rcases hmark with rfl | rfl | rfl | rfl <;> simp at hplain

/-- All marks stand in tags. -/
theorem marks_printItems (items : List Item) :
    marks (printItems items) = (tagsOf items).flatMap fun t => marks (Item.tag t).chars := by
  induction items with
  | nil => rfl
  | cons item items ih =>
    rw [printItems, List.flatMap_cons, marks, List.filter_append, ← printItems, ← marks, ← marks,
      ih]
    cases item with
    | tag s => rw [tagsOf_tag, List.flatMap_cons]
    | char c => rw [Item.chars, marks_entityChars, List.nil_append, tagsOf_char]

def text (s : String) : List Item := s.toList.map .char

/-- What stands between an opening tag and the closing tag of a name. -/
def enclosed (opening name : String) (content : List Item) : List Item :=
  .tag opening :: content ++ [.tag ("/" ++ name)]

def element (name : String) (content : List Item) : List Item := enclosed name name content

def classed (name className : String) (content : List Item) : List Item :=
  enclosed (name ++ " class=\"" ++ className ++ "\"") name content

theorem printItems_tag (s : String) (items : List Item) :
    printItems (.tag s :: items) = '<' :: s.toList ++ '>' :: printItems items := by
  rw [printItems, List.flatMap_cons, Item.chars, List.append_assoc]
  rfl

theorem printItems_append (a b : List Item) : printItems (a ++ b) = printItems a ++ printItems b :=
  List.flatMap_append

theorem printItems_text (s : String) : printItems (text s) = escapeText s := by
  rw [printItems, text, List.flatMap_map]
  rfl

theorem tagsOf_append (a b : List Item) : tagsOf (a ++ b) = tagsOf a ++ tagsOf b :=
  List.filterMap_append

theorem tagsOf_text (s : String) : tagsOf (text s) = [] := by
  simp [tagsOf, text, Item.tag?]

theorem tagsOf_enclosed (opening name : String) (content : List Item) :
    tagsOf (enclosed opening name content) = opening :: tagsOf content ++ ["/" ++ name] := by
  simp [enclosed, tagsOf, Item.tag?]

end FleetDrift.Render
