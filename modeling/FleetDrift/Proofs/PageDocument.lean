import FleetDrift.Proofs.MarkupReading
import FleetDrift.Render.Page

/-! # The document of a page
A page is the printed form of a tree of elements in which every text of the report has one place. -/
namespace FleetDrift.Render

open Number (Binary64 Notation decimalText)

abbrev Shown := FieldValue → String

namespace Document

def head : List Item :=
  element "head"
    (text "\n" ++ [.tag "meta charset=\"utf-8\""] ++ text "\n"
      ++ element "title" (text "clientdiff report") ++ text "\n"
      ++ element "style" (text ("\n" ++ String.join (Page.styleRules.map (· ++ "\n"))))
      ++ text "\n")

def count (n : Nat) : List Item := text (decimalText n)

def number (x : Binary64) : List Item := text (String.ofList (Notation.page.chars x))

def summaryRow (label : String) (content : List Item) : List Item :=
  text "  " ++ element "tr" (element "td" (text label) ++ element "td" content) ++ text "\n"

def summary (r : Report) : List Item :=
  element "p" (text "Snapshot " ++ element "code" (text r.fingerprint)) ++ text "\n"
    ++ classed "table" "summary"
      (text "\n"
        ++ summaryRow "Entries scanned" (count r.summary.totalEntries)
        ++ summaryRow "Unidentifiable entries" (count r.summary.unidentifiableEntries)
        ++ summaryRow "Identity groups" (count r.summary.totalGroups)
        ++ summaryRow "Conflicting groups" (count r.summary.conflictGroups)
        ++ summaryRow "High / medium"
          (count r.summary.high ++ text " / " ++ count r.summary.medium))
    ++ text "\n"

def conflictTag (t : ConflictType) : List Item := classed "span" "tag" (text t.name)

def fieldDiff (shown : Shown) (d : FieldDiff) : List Item :=
  text "\n    "
    ++ element "li"
      (element "strong" (text d.field.label) ++ text ": "
        ++ text (String.intercalate " / " (d.values.map shown)))
    ++ text "\n    "

def cell (content : List Item) : List Item := text "      " ++ element "td" content ++ text "\n"

def row (c : Candidate) (content : List Item) : List Item :=
  if c.rank = 0 then classed "tr" "recommended" content else element "tr" content

def candidate (c : Candidate) : List Item :=
  text "\n    "
    ++ row c
      (text "\n" ++ cell (count (c.rank + 1))
        ++ cell (text c.serverName ++ text " (" ++ text c.serverId ++ text ")")
        ++ cell (text c.inboundRemark)
        ++ cell (text (if c.enable then "yes" else "no"))
        ++ cell (number c.expiryTime)
        ++ cell (number c.totalGB)
        ++ cell (number c.limitIp)
        ++ cell (element "code" (text c.locator))
        ++ text "    ")
    ++ text "\n    "

def memberHeads : List Item :=
  element "tr"
    (["#", "Server", "Inbound", "Enabled", "Expiry", "Quota", "IP limit", "Locator"].flatMap
      fun h => element "th" (text h))

def subGroup (shown : Shown) (s : SubGroup) : List Item :=
  text "\n  " ++ element "h3" (text s.protocol) ++ text "\n  "
    ++ element "p" (text "\n    " ++ s.comparison.conflictTypes.flatMap conflictTag ++ text "\n  ")
    ++ text "\n  "
    ++ element "ul"
      (text "\n    " ++ s.comparison.fieldDiffs.flatMap (fieldDiff shown) ++ text "\n  ")
    ++ text "\n  "
    ++ classed "table" "members"
      (text "\n    " ++ memberHeads ++ text "\n    " ++ s.ranked.flatMap candidate ++ text "\n  ")
    ++ text "\n  "

def group (shown : Shown) (g : Group) : List Item :=
  text "\n"
    ++ classed "div" ("group " ++ g.severity.name)
      (text "\n  "
        ++ element "h2"
          (text g.identity.value ++ text " "
            ++ element "small"
              (text "(" ++ text g.identity.kind.name ++ text ", " ++ text g.severity.name
                ++ text ", " ++ count g.size ++ text " copies)"))
        ++ text "\n  " ++ g.subGroups.flatMap (subGroup shown) ++ text "\n")
    ++ text "\n"

def cleanNote (r : Report) : List Item :=
  if r.isClean then
    text "\n" ++ element "p" (element "em" (text "No conflicts. Every copy agrees.")) ++ text "\n"
  else []

end Document

def document (shown : Shown) (r : Report) : List Item :=
  [.tag "!DOCTYPE html"] ++ text "\n"
    ++ enclosed "html lang=\"en\"" "html"
      (text "\n" ++ Document.head ++ text "\n"
        ++ element "body"
          (text "\n" ++ element "h1" (text "Client drift report") ++ text "\n"
            ++ Document.summary r ++ Document.cleanNote r ++ text "\n"
            ++ r.groups.flatMap (Document.group shown) ++ text "\n")
        ++ text "\n")

variable {shown : Shown}

def fragmentChars (fragments : List Fragment) : List Char := fragments.flatMap Fragment.chars

theorem fragmentChars_nil : fragmentChars [] = [] := rfl

theorem fragmentChars_markup (s : String) (fragments : List Fragment) :
    fragmentChars (.markup s :: fragments) = s.toList ++ fragmentChars fragments :=
  List.flatMap_cons

theorem fragmentChars_text (s : String) (fragments : List Fragment) :
    fragmentChars (.text s :: fragments) = escapeText s ++ fragmentChars fragments :=
  List.flatMap_cons

theorem fragmentChars_append (a b : List Fragment) :
    fragmentChars (a ++ b) = fragmentChars a ++ fragmentChars b :=
  List.flatMap_append

theorem fragmentChars_single (s : String) : fragmentChars [.text s] = printItems (text s) := by
  rw [fragmentChars_text, fragmentChars_nil, List.append_nil, printItems_text]

theorem fragmentChars_flatMap {α : Type} {f : α → List Fragment} {g : α → List Item}
    (h : ∀ x, fragmentChars (f x) = printItems (g x)) (xs : List α) :
    fragmentChars (xs.flatMap f) = printItems (xs.flatMap g) := by
  rw [fragmentChars, printItems, List.flatMap_assoc, List.flatMap_assoc]
  exact congrArg (xs.flatMap ·) (funext h)

theorem fragmentChars_tag (t : ConflictType) :
    fragmentChars (Page.tag t) = printItems (Document.conflictTag t) := by
  simp only [Page.tag, fragmentChars_markup, fragmentChars_text, Document.conflictTag, classed,
    enclosed, printItems_append, printItems_tag, printItems_text, List.cons_append]
  rfl

theorem fragmentChars_fieldDiff (d : FieldDiff) :
    fragmentChars (Page.fieldDiff d) = printItems (Document.fieldDiff FieldValue.display d) := by
  simp only [Page.fieldDiff, fragmentChars_markup, fragmentChars_text, Document.fieldDiff, element,
    enclosed, printItems_append, printItems_tag, printItems_text, List.append_assoc,
    List.cons_append]
  rfl

theorem fragmentChars_cell {content : List Fragment} {items : List Item}
    (h : fragmentChars content = printItems items) :
    fragmentChars (Page.cell content) = printItems (Document.cell items) := by
  simp only [Page.cell, fragmentChars_markup, fragmentChars_append, h, Document.cell, element,
    enclosed, printItems_append, printItems_tag, printItems_text, List.append_assoc,
    List.cons_append]
  rfl

theorem fragmentChars_candidate (c : Candidate) :
    fragmentChars (Page.candidate c) = printItems (Document.candidate c) := by
  have hserver : fragmentChars
        [.text c.serverName, .markup " (", .text c.serverId, .markup ")"] =
      printItems (text c.serverName ++ text " (" ++ text c.serverId ++ text ")") := by
    simp only [fragmentChars_markup, fragmentChars_text, printItems_append, printItems_text,
      List.append_assoc]
    rfl
  have henabled : fragmentChars [.markup (if c.enable then "yes" else "no")] =
      printItems (text (if c.enable then "yes" else "no")) := by
    cases c.enable <;> rfl
  have hlocator : fragmentChars [.markup "<code>", .text c.locator, .markup "</code>"] =
      printItems (element "code" (text c.locator)) := by
    simp only [fragmentChars_markup, fragmentChars_text, element, enclosed, printItems_append,
      printItems_tag, printItems_text, List.cons_append]
    rfl
  have hclose : fragmentChars [.markup "    </tr>\n    "] =
      printItems (text "    " ++ [.tag "/tr"] ++ text "\n    ") := rfl
  simp only [Page.candidate, Page.count, Page.number, fragmentChars_append,
    fragmentChars_cell (fragmentChars_single _), fragmentChars_cell hserver,
    fragmentChars_cell henabled, fragmentChars_cell hlocator, hclose]
  by_cases hfirst : c.rank = 0
  · have hopen : fragmentChars
          [.markup "\n    <tr", .markup " class=\"recommended\"", .markup ">\n"] =
        printItems (text "\n    " ++ [.tag "tr class=\"recommended\""] ++ text "\n") := rfl
    simp only [if_pos hfirst, hopen, ← printItems_append, Document.candidate, Document.row, classed,
      enclosed, List.append_assoc, List.cons_append]
    rfl
  · have hopen : fragmentChars [.markup "\n    <tr", .markup "", .markup ">\n"] =
        printItems (text "\n    " ++ [.tag "tr"] ++ text "\n") := rfl
    simp only [if_neg hfirst, hopen, ← printItems_append, Document.candidate, Document.row, element,
      enclosed, List.append_assoc, List.cons_append]
    rfl

theorem fragmentChars_subGroup (s : SubGroup) :
    fragmentChars (Page.subGroup s) = printItems (Document.subGroup FieldValue.display s) := by
  have hname : fragmentChars [.markup "\n  <h3>", .text s.protocol, .markup "</h3>\n  <p>\n    "] =
      printItems (text "\n  " ++ element "h3" (text s.protocol) ++ text "\n  " ++ [.tag "p"]
        ++ text "\n    ") := by
    simp only [fragmentChars_markup, fragmentChars_text, element, enclosed, printItems_append,
      printItems_tag, printItems_text, List.append_assoc, List.cons_append]
    rfl
  have htypes : fragmentChars [.markup "\n  </p>\n  <ul>\n    "] =
      printItems (text "\n  " ++ [.tag "/p"] ++ text "\n  " ++ [.tag "ul"] ++ text "\n    ") := rfl
  have hdiffs : fragmentChars
        [.markup ("\n  </ul>\n  <table class=\"members\">\n    " ++ Page.memberHeads ++ "\n    ")] =
      printItems (text "\n  " ++ [.tag "/ul"] ++ text "\n  " ++ [.tag "table class=\"members\""]
        ++ text "\n    " ++ Document.memberHeads ++ text "\n    ") := by
    decide +kernel
  have hcopies : fragmentChars [.markup "\n  </table>\n  "] =
      printItems (text "\n  " ++ [.tag "/table"] ++ text "\n  ") := rfl
  simp only [Page.subGroup, fragmentChars_append, hname, htypes, hdiffs, hcopies,
    fragmentChars_flatMap fragmentChars_tag, fragmentChars_flatMap fragmentChars_fieldDiff,
    fragmentChars_flatMap fragmentChars_candidate, ← printItems_append]
  simp only [Document.subGroup, classed, element, enclosed, List.append_assoc, List.cons_append,
    List.nil_append]
  rfl

theorem fragmentChars_group (g : Group) :
    fragmentChars (Page.group g) = printItems (Document.group FieldValue.display g) := by
  have hseverity : escapeText g.severity.name = g.severity.name.toList := by
    cases g.severity <;> rfl
  simp only [Page.group, Page.count, fragmentChars_append, fragmentChars_markup, fragmentChars_text,
    fragmentChars_flatMap fragmentChars_subGroup, Document.group, Document.count, classed, element,
    enclosed, printItems_append, printItems_tag, printItems_text, String.toList_append, hseverity,
    List.append_assoc, List.cons_append]
  rfl

theorem fragmentChars_summaryRow (label : String) (hlabel : escapeText label = label.toList)
    {cells : List Fragment} {content : List Item} (h : fragmentChars cells = printItems content) :
    fragmentChars (Page.summaryRow label cells) =
      printItems (Document.summaryRow label content) := by
  simp only [Page.summaryRow, fragmentChars_markup, fragmentChars_append, h, Document.summaryRow,
    element, enclosed, printItems_append, printItems_tag, printItems_text, hlabel,
    String.toList_append, List.append_assoc, List.cons_append]
  rfl

theorem fragmentChars_summary (r : Report) :
    fragmentChars (Page.summary r) = printItems (Document.summary r) := by
  have hlevels : fragmentChars
        [.text (decimalText r.summary.high), .markup " / ", .text (decimalText r.summary.medium)] =
      printItems (text (decimalText r.summary.high) ++ text " / "
        ++ text (decimalText r.summary.medium)) := by
    simp only [fragmentChars_markup, fragmentChars_text, fragmentChars_nil, printItems_append,
      printItems_text, List.append_assoc, List.append_nil]
    rfl
  simp only [Page.summary, Page.count, fragmentChars_append,
    fragmentChars_summaryRow "Entries scanned" rfl (fragmentChars_single _),
    fragmentChars_summaryRow "Unidentifiable entries" rfl (fragmentChars_single _),
    fragmentChars_summaryRow "Identity groups" rfl (fragmentChars_single _),
    fragmentChars_summaryRow "Conflicting groups" rfl (fragmentChars_single _),
    fragmentChars_summaryRow "High / medium" rfl hlevels]
  simp only [fragmentChars_markup, fragmentChars_text, Document.summary, Document.count, classed,
    element, enclosed, printItems_append, printItems_tag, printItems_text, List.append_assoc,
    List.cons_append]
  rfl

theorem fragmentChars_cleanNote (r : Report) :
    fragmentChars [Page.cleanNote r] = printItems (Document.cleanNote r) := by
  rw [Page.cleanNote, Document.cleanNote]
  cases r.isClean <;> rfl

theorem text_append (a b : String) : text (a ++ b) = text a ++ text b := by
  simp only [text, String.toList_append, List.map_append]

theorem escapeText_append (a b : String) : escapeText (a ++ b) = escapeText a ++ escapeText b := by
  simp only [escapeText, String.toList_append, List.flatMap_append]

theorem escapeText_join (l : List String) : escapeText (String.join l) = l.flatMap escapeText := by
  rw [escapeText, String.toList_join, List.flatMap_assoc]
  rfl

def Plain (s : String) : Prop := escapeText s = s.toList

instance (s : String) : Decidable (Plain s) := inferInstanceAs (Decidable (_ = _))

theorem Plain.append {a b : String} (ha : Plain a) (hb : Plain b) : Plain (a ++ b) := by
  rw [Plain, escapeText_append, String.toList_append, ha, hb]

theorem Plain.join {l : List String} (h : ∀ s ∈ l, Plain s) : Plain (String.join l) := by
  rw [Plain, escapeText_join, String.toList_join]
  exact List.flatMap_congr h

theorem plain_rule {selector : String} {declarations : List String} (hselector : Plain selector)
    (hdeclarations : ∀ d ∈ declarations, Plain d) : Plain (Page.rule selector declarations) := by
  have hspaced : Plain (String.join (declarations.map (· ++ "; "))) := by
    apply Plain.join
    rw [List.forall_mem_map]
    exact fun d hd => (hdeclarations d hd).append (by decide)
  have hopening : Plain ("  " ++ selector ++ " \x7b ") :=
    ((by decide : Plain "  ").append hselector).append (by decide)
  exact (hopening.append hspaced).append (by decide)

theorem plain_styleRules : ∀ s ∈ Page.styleRules, Plain s := by
  simp only [Page.styleRules, List.forall_mem_cons]
  refine ⟨?_, ?_, ?_, ?_, ?_, ?_, ?_, ?_, ?_, ?_, ?_, by simp⟩
  all_goals exact plain_rule (by decide +kernel) (by decide +kernel)

theorem fragmentChars_headLines :
    fragmentChars [.markup (String.join (Page.headLines.map (· ++ "\n")))] =
      printItems
        ([.tag "!DOCTYPE html"] ++ text "\n" ++ [.tag "html lang=\"en\""] ++ text "\n"
          ++ Document.head ++ text "\n" ++ [.tag "body"] ++ text "\n"
          ++ element "h1" (text "Client drift report") ++ text "\n") := by
  have hopening :
      (["<!DOCTYPE html>", "<html lang=\"en\">", "<head>", "<meta charset=\"utf-8\">",
          "<title>clientdiff report</title>", "<style>"].map (· ++ "\n")).flatMap String.toList =
        printItems
          ([.tag "!DOCTYPE html"] ++ text "\n" ++ [.tag "html lang=\"en\""] ++ text "\n"
            ++ [.tag "head"] ++ text "\n" ++ [.tag "meta charset=\"utf-8\""] ++ text "\n"
            ++ element "title" (text "clientdiff report") ++ text "\n" ++ [.tag "style"]
            ++ text "\n") := by
    decide +kernel
  have hrules : (Page.styleRules.map (· ++ "\n")).flatMap String.toList =
      printItems (text (String.join (Page.styleRules.map (· ++ "\n")))) := by
    have hplain : Plain (String.join (Page.styleRules.map (· ++ "\n"))) := by
      apply Plain.join
      rw [List.forall_mem_map]
      exact fun s hs => (plain_styleRules s hs).append (by decide)
    rw [printItems_text, hplain, String.toList_join]
  have hclosing :
      (["</style>", "</head>", "<body>", "<h1>Client drift report</h1>"].map
          (· ++ "\n")).flatMap String.toList =
        printItems
          ([.tag "/style"] ++ text "\n" ++ [.tag "/head"] ++ text "\n" ++ [.tag "body"] ++ text "\n"
            ++ element "h1" (text "Client drift report") ++ text "\n") := by
    decide +kernel
  rw [fragmentChars_markup, fragmentChars_nil, List.append_nil, String.toList_join, Page.headLines,
    List.map_append, List.map_append, List.flatMap_append, List.flatMap_append, hopening, hrules,
    hclosing]
  simp only [← printItems_append, Document.head, element, enclosed, text_append, List.append_assoc,
    List.cons_append, List.nil_append, String.reduceAppend]

/-- The page is the document, printed. -/
theorem toList_page (r : Report) :
    (page r).toList = printItems (document FieldValue.display r) := by
  have hend : fragmentChars [.markup "\n</body>\n</html>"] =
      printItems (text "\n" ++ [.tag "/body"] ++ text "\n" ++ [.tag "/html"]) := rfl
  have hnote : fragmentChars [Page.cleanNote r, .markup "\n"] =
      printItems (Document.cleanNote r ++ text "\n") := by
    rw [← List.singleton_append, fragmentChars_append, fragmentChars_cleanNote, printItems_append]
    rfl
  rw [page, writeFragments, String.toList_ofList, ← fragmentChars, Page.fragments,
    ← List.singleton_append]
  simp only [fragmentChars_append, fragmentChars_headLines, fragmentChars_summary, hnote, hend,
    fragmentChars_flatMap fragmentChars_group, ← printItems_append]
  simp only [document, element, enclosed, List.append_assoc, List.cons_append, List.nil_append]
  rfl

end FleetDrift.Render
