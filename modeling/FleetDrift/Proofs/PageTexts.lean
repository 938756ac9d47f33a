import FleetDrift.Proofs.PageDocument
import FleetDrift.Proofs.ReportGroups

/-! # Texts on a page
The tags of a page are those of the same report with all its texts left out, so nothing that a panel
supplies is read as a tag or an attribute. Read back, a page is its document: each text stands in
its place, except that an empty value of a field is shown as a sign. -/
namespace FleetDrift

open Render

def FieldValue.withoutText : FieldValue → FieldValue
  | text _ => .text ""
  | value => value

def FieldDiff.withoutTexts (d : FieldDiff) : FieldDiff :=
  { d with values := d.values.map FieldValue.withoutText }

def Entry.withoutTexts (e : Entry) : Entry :=
  { e with
    serverId := "", serverName := "", inboundRemark := "", protocol := "", id := "", password := ""
    email := e.email.map fun _ => "", flow := "", subId := "" }

def Member.withoutTexts (m : Member) : Member := ⟨"", m.entry.withoutTexts⟩

def Candidate.withoutTexts (c : Candidate) : Candidate :=
  { c with locator := "", serverId := "", serverName := "", inboundRemark := "" }

def SubGroup.withoutTexts (s : SubGroup) : SubGroup :=
  { s with
    protocol := ""
    members := s.members.map Member.withoutTexts
    comparison := ⟨s.comparison.fieldDiffs.map FieldDiff.withoutTexts⟩
    ranked := s.ranked.map Candidate.withoutTexts
    recommended := "" }

def Group.withoutTexts (g : Group) : Group :=
  { g with
    identity := { g.identity with value := "" }
    subGroups := g.subGroups.map SubGroup.withoutTexts }

def Report.withoutTexts (r : Report) : Report :=
  { r with groups := r.groups.map Group.withoutTexts }

namespace Render

variable {shown : Shown}

theorem tagsOf_flatMap {α : Type} (f : α → List Item) (xs : List α) :
    tagsOf (xs.flatMap f) = xs.flatMap fun x => tagsOf (f x) := by
  rw [tagsOf, List.filterMap_flatMap]
  rfl

namespace Document

def recommendedRow : String := "tr class=\"recommended\""

def rowTag (c : Candidate) : String := if c.rank = 0 then recommendedRow else "tr"

def rowTags (c : Candidate) : List String :=
  rowTag c :: (List.replicate 7 ["td", "/td"]).flatten ++ ["td", "code", "/code", "/td", "/tr"]

def typeTags : List String := ["span class=\"tag\"", "/span"]

def diffTags : List String := ["li", "strong", "/strong", "/li"]

def subGroupTags (s : SubGroup) : List String :=
  ["h3", "/h3", "p"] ++ s.comparison.conflictTypes.flatMap (fun _ => typeTags)
    ++ ["/p", "ul"] ++ s.comparison.fieldDiffs.flatMap (fun _ => diffTags)
    ++ ["/ul", "table class=\"members\"", "tr"] ++ (List.replicate 8 ["th", "/th"]).flatten
    ++ ["/tr"] ++ s.ranked.flatMap rowTags ++ ["/table"]

def severityTag : Severity → String
  | .high => "div class=\"group high\""
  | .medium => "div class=\"group medium\""

def groupTags (g : Group) : List String :=
  [severityTag g.severity, "h2", "small", "/small", "/h2"] ++ g.subGroups.flatMap subGroupTags
    ++ ["/div"]

def openingTags : List String :=
  ["!DOCTYPE html", "html lang=\"en\"", "head", "meta charset=\"utf-8\"", "title", "/title",
   "style", "/style", "/head", "body", "h1", "/h1", "p", "code", "/code", "/p",
   "table class=\"summary\""]
    ++ (List.replicate 5 ["tr", "td", "/td", "td", "/td", "/tr"]).flatten ++ ["/table"]

def noteTags (r : Report) : List String := if r.isClean then ["p", "em", "/em", "/p"] else []

def pageTags (r : Report) : List String :=
  openingTags ++ noteTags r ++ r.groups.flatMap groupTags ++ ["/body", "/html"]

theorem tagsOf_conflictTag (t : ConflictType) : tagsOf (conflictTag t) = typeTags := by
  simp [conflictTag, typeTags, classed, tagsOf_enclosed, tagsOf_text]

theorem tagsOf_fieldDiff (d : FieldDiff) : tagsOf (fieldDiff shown d) = diffTags := by
  simp [fieldDiff, diffTags, element, tagsOf_append, tagsOf_enclosed, tagsOf_text]

theorem tagsOf_row (c : Candidate) (content : List Item) :
    tagsOf (row c content) = rowTag c :: tagsOf content ++ ["/tr"] := by
  rw [row, rowTag]
  by_cases hfirst : c.rank = 0
  · simp only [if_pos hfirst, classed, tagsOf_enclosed]
    rfl
  · simp only [if_neg hfirst, element, tagsOf_enclosed]
    rfl

theorem tagsOf_candidate (c : Candidate) : tagsOf (candidate c) = rowTags c := by
  simp [candidate, rowTags, cell, count, number, element, tagsOf_append, tagsOf_enclosed,
    tagsOf_text, tagsOf_row, List.replicate]

theorem tagsOf_subGroup (s : SubGroup) : tagsOf (subGroup shown s) = subGroupTags s := by
  simp [subGroup, subGroupTags, memberHeads, classed, element, tagsOf_append, tagsOf_enclosed,
    tagsOf_text, tagsOf_flatMap, tagsOf_conflictTag, tagsOf_fieldDiff, tagsOf_candidate,
    List.replicate]

theorem tagsOf_group (g : Group) : tagsOf (group shown g) = groupTags g := by
  have hdiv :
      "div class=\"" ++ ("group " ++ (g.severity.name ++ "\"")) = severityTag g.severity := by
    cases g.severity <;> rfl
  simp [group, groupTags, count, classed, element, tagsOf_append, tagsOf_enclosed, tagsOf_text,
    tagsOf_flatMap, tagsOf_subGroup, String.append_assoc, hdiv]

theorem tagsOf_cleanNote (r : Report) : tagsOf (cleanNote r) = noteTags r := by
  rw [cleanNote, noteTags]
  by_cases hclean : r.isClean
  · simp [hclean, element, tagsOf_append, tagsOf_enclosed, tagsOf_text]
  · simp [hclean, tagsOf]

theorem tagsOf_document (r : Report) : tagsOf (document shown r) = pageTags r := by
  simp [document, pageTags, openingTags, head, summary, summaryRow, count, classed, element,
    tagsOf_append, tagsOf_enclosed, tagsOf_text, tagsOf_tag, tagsOf_flatMap, tagsOf_cleanNote,
    tagsOf_group, List.replicate]

def Closed (tags : List String) : Prop := ∀ t ∈ tags, '>' ∉ t.toList

instance (tags : List String) : Decidable (Closed tags) := inferInstanceAs (Decidable (∀ _ ∈ _, _))

theorem Closed.append {a b : List String} (ha : Closed a) (hb : Closed b) : Closed (a ++ b) := by
  intro t ht
  rcases List.mem_append.mp ht with ht | ht
  · exact ha t ht
  · exact hb t ht

theorem Closed.flatMap {α : Type} {f : α → List String} (h : ∀ x, Closed (f x)) (xs : List α) :
    Closed (xs.flatMap f) := by
  intro t ht
  obtain ⟨x, -, hx⟩ := List.mem_flatMap.mp ht
  exact h x t hx

theorem closed_rowTags (c : Candidate) : Closed (rowTags c) := by
  rw [rowTags, rowTag]
  by_cases hfirst : c.rank = 0
  · rw [if_pos hfirst]
    decide
  · rw [if_neg hfirst]
    decide

theorem closed_subGroupTags (s : SubGroup) : Closed (subGroupTags s) := by
  have htypes : Closed (s.comparison.conflictTypes.flatMap fun _ => typeTags) :=
    Closed.flatMap (fun _ => by decide) _
  have hdiffs : Closed (s.comparison.fieldDiffs.flatMap fun _ => diffTags) :=
    Closed.flatMap (fun _ => by decide) _
  have hrows : Closed (s.ranked.flatMap rowTags) := Closed.flatMap closed_rowTags _
  rw [subGroupTags]
  repeat' apply Closed.append
  all_goals first | assumption | decide

theorem closed_groupTags (g : Group) : Closed (groupTags g) := by
  have hhead : Closed [severityTag g.severity, "h2", "small", "/small", "/h2"] := by
    cases g.severity <;> decide
  exact (hhead.append (Closed.flatMap closed_subGroupTags _)).append (by decide)

theorem closed_pageTags (r : Report) : Closed (pageTags r) := by
  have hnote : Closed (noteTags r) := by
    rw [noteTags]
    cases r.isClean <;> decide
  exact (((by decide : Closed openingTags).append hnote).append
    (Closed.flatMap closed_groupTags _)).append (by decide)

theorem conflictTypes_withoutTexts (s : SubGroup) :
    s.withoutTexts.comparison.conflictTypes = s.comparison.conflictTypes := by
  have hfields : s.withoutTexts.comparison.diffFields = s.comparison.diffFields := by
    simp [SubGroup.withoutTexts, Comparison.diffFields, FieldDiff.withoutTexts]
  rw [Comparison.conflictTypes, hfields, Comparison.conflictTypes]

theorem rowTags_withoutTexts (c : Candidate) : rowTags c.withoutTexts = rowTags c := rfl

theorem subGroupTags_withoutTexts (s : SubGroup) :
    subGroupTags s.withoutTexts = subGroupTags s := by
  rw [subGroupTags, conflictTypes_withoutTexts, subGroupTags]
  simp only [SubGroup.withoutTexts, List.flatMap_map, rowTags_withoutTexts]

theorem groupTags_withoutTexts (g : Group) : groupTags g.withoutTexts = groupTags g := by
  simp only [groupTags, Group.withoutTexts, List.flatMap_map, subGroupTags_withoutTexts]

/-- No text of a report has a part in the tags of its page. -/
theorem pageTags_withoutTexts (r : Report) : pageTags r.withoutTexts = pageTags r := by
  have hclean : r.withoutTexts.isClean = r.isClean := by
    simp only [Report.isClean, Report.withoutTexts, List.isEmpty_map]
  rw [pageTags, noteTags, hclean, ← noteTags, pageTags]
  simp only [Report.withoutTexts, List.flatMap_map, groupTags_withoutTexts]

theorem count_rowTags (c : Candidate) :
    (rowTags c).count recommendedRow = if c.rank = 0 then 1 else 0 := by
  rw [rowTags, rowTag]
  by_cases hfirst : c.rank = 0
  · rw [if_pos hfirst, if_pos hfirst]
    decide
  · rw [if_neg hfirst, if_neg hfirst]
    decide

theorem count_subGroupTags (s : SubGroup) :
    (subGroupTags s).count recommendedRow = s.ranked.countP fun c => c.rank = 0 := by
  have htypes : (s.comparison.conflictTypes.flatMap fun _ => typeTags).count recommendedRow = 0 :=
    List.count_eq_zero.mpr (by simp [typeTags, recommendedRow])
  have hdiffs : (s.comparison.fieldDiffs.flatMap fun _ => diffTags).count recommendedRow = 0 :=
    List.count_eq_zero.mpr (by simp [diffTags, recommendedRow])
  have hrows : (s.ranked.flatMap rowTags).count recommendedRow =
      s.ranked.countP fun c => c.rank = 0 := by
    induction s.ranked with
    | nil => rfl
    | cons c cs ih =>
      rw [List.flatMap_cons, List.count_append, count_rowTags, ih, List.countP_cons, Nat.add_comm]
      simp only [decide_eq_true_eq]
  have hheads : (List.replicate 8 ["th", "/th"]).flatten.count recommendedRow = 0 := by decide
  simp only [subGroupTags, List.count_append, htypes, hdiffs, hheads, hrows]
  simp [recommendedRow]

end Document

/-- A page is read back as its document. -/
theorem readItems_page (r : Report) :
    readItems (page r).toList = document FieldValue.display r := by
  rw [toList_page]
  apply readItems_printItems
  rw [Document.tagsOf_document]
  exact Document.closed_pageTags r

theorem marks_page (r : Report) : marks (page r).toList =
    (Document.pageTags r).flatMap fun t => marks (Item.tag t).chars := by
  rw [toList_page, marks_printItems, Document.tagsOf_document]

end Render

namespace Report

variable {entries : List Entry} {K : Identity} {s : SubGroup}

theorem countP_first (h : (K, s) ∈ (ofEntries entries).listing) :
    s.ranked.countP (fun c => c.rank = 0) = 1 := by
  have hperm : (rank s.copies).Perm s.copies := rankBy_perm Entry.score s.copies
  have hne : rank s.copies ≠ [] := by
    intro hnil
    rw [hnil] at hperm
    exact copies_ne_nil h hperm.nil_eq.symm
  -- ranks count the places, so only the head of the ranking has rank zero
  obtain ⟨top, others, hrank⟩ := List.exists_cons_of_ne_nil hne
  have hothers : (others.zipIdx 1).countP
      (fun x => decide ((Candidate.ofEntry x.2 x.1).rank = 0)) = 0 := by
    rw [List.countP_eq_zero]
    intro x hx hzero
    have hlate : 1 ≤ x.2 := (List.mem_zipIdx hx).1
    have hfirst : x.2 = 0 := of_decide_eq_true hzero
    omega
  rw [ranked_eq h, hrank, List.zipIdx_cons, List.countP_map, List.countP_cons]
  simp only [Function.comp_def, hothers]
  rfl

structure KeepsTextsApart (r : Report) : Prop where
  marks : marks (page r).toList = marks (page r.withoutTexts).toList
  tags : tagsOf (readItems (page r).toList) = tagsOf (readItems (page r.withoutTexts).toList)
  printed : (page r).toList = printItems (document FieldValue.display r)
  read : readItems (page r).toList = document FieldValue.display r
  values : ∀ t, (FieldValue.text t).display = if t = "" then "∅" else t
  recommended : ∀ g ∈ r.groups, ∀ s ∈ g.subGroups,
    (tagsOf (Document.subGroup FieldValue.display s)).count "tr class=\"recommended\"" = 1

theorem ofEntries_keepsTextsApart (entries : List Entry) : (ofEntries entries).KeepsTextsApart where
  marks := by
    rw [marks_page, marks_page, Document.pageTags_withoutTexts]
  tags := by
    rw [readItems_page, readItems_page, Document.tagsOf_document, Document.tagsOf_document,
      Document.pageTags_withoutTexts]
  printed := toList_page _
  read := readItems_page _
  values _ := rfl
  recommended g hg s hs := by
    rw [Document.tagsOf_subGroup, ← Document.recommendedRow, Document.count_subGroupTags]
    exact countP_first ((mem_subGroups_iff hg).mp hs)

end Report

def FieldValue.plain : FieldValue → String
  | text s => s
  | value => value.display

def flowlessCopy : Entry :=
  .ofFields [("protocol", .string "vless"), ("email", .string "u@x.io"), ("id", .string "u1")]

def flowingCopy : Entry := { flowlessCopy with flow := "xtls" }

theorem listing_flowless :
    (⟨.email, "u@x.io"⟩, .ofDisagreeing "vless" .email [flowlessCopy, flowingCopy]) ∈
      (Report.ofEntries [flowlessCopy, flowingCopy]).listing :=
  Report.listing_of_one_client _ (by decide +kernel) (by decide +kernel)

/-- An empty text is not read back from its place. -/
theorem empty_text_shown_as_sign :
    ∃ g ∈ (Report.ofEntries [flowlessCopy, flowingCopy]).groups, ∃ s ∈ g.subGroups,
      ∃ d ∈ s.comparison.fieldDiffs, d.values = [.text "", .text "xtls"] ∧
        readItems (fragmentChars (Page.fieldDiff d)) ≠ Document.fieldDiff FieldValue.plain d := by
  obtain ⟨g, hg, -, hs⟩ := Report.mem_listing.mp listing_flowless
  refine ⟨g, hg, _, hs, ⟨.flow, [.text "", .text "xtls"]⟩, by decide +kernel, rfl, ?_⟩
  have htags : Document.Closed (tagsOf (Document.fieldDiff FieldValue.display
      ⟨.flow, [.text "", .text "xtls"]⟩)) := by
    rw [Document.tagsOf_fieldDiff]
    decide
  rw [fragmentChars_fieldDiff, readItems_printItems htags]
  decide +kernel

end FleetDrift
