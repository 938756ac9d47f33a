import FleetDrift.Proofs.RunPaths

/-! # Files beside panels
Whoever reads a panel may leave files beside it: a journal, a log and an index of the log. A panel
that keeps a log gets an empty one, unless it is there, and an index of no changes. -/
namespace FleetDrift

/-- What follows the name of a panel in the names of the files beside it. -/
def Panel.companions : List String := ["-journal", logSuffix, indexSuffix]

namespace FileTree

def Beside (t : FileTree) (path : String) (q : List String) : Prop :=
  ∃ suffix ∈ Panel.companions, t.locate (path ++ suffix) = .ok q

/-- Files change at certain places only, and directories are neither made nor lost. -/
structure Touches (before after : FileTree) (places : List String → Prop) : Prop
    extends before.KeepsDirectories after where
  noDirectory : ∀ q, after.node? q = some .directory → before.node? q = some .directory
  files : ∀ q, after.file? q ≠ before.file? q → places q

/-- The files that change are new, empty logs and indexes of no changes. -/
def GainsLogs (before after : FileTree) : Prop :=
  ∀ q, after.file? q ≠ before.file? q →
    (before.file? q = none ∧ after.file? q = some (.bytes [])) ∨
      after.file? q = some (.bytes Panel.emptyIndex)

structure LogAt (t : FileTree) (path : String) (log index : List String) : Prop where
  keeps : ∃ content, t.read path = .ok content ∧ content.keepsLog = true
  log : t.locate (path ++ Panel.logSuffix) = .ok log
  index : t.locate (path ++ Panel.indexSuffix) = .ok index

/-- A log is made, or an index of no changes where there is none. -/
inductive MakesLog (t : FileTree) (path : String) : Panel.LogUse → Prop where
  | log {use : Panel.LogUse} {log index : List String} : t.LogAt path log index →
      use = .opened ∨ use = .indexGiven → t.node? log = none → MakesLog t path use
  | index {log index : List String} : t.LogAt path log index → t.node? log ≠ some .directory →
      t.node? index ≠ some .directory → t.file? index ≠ some (.bytes Panel.emptyIndex) →
      MakesLog t path .opened

inductive LogStep (t : FileTree) (place : List String) : FileTree → Prop where
  | same : LogStep t place t
  | log : t.node? place = none → LogStep t place (t.put place (.file (.bytes [])))
  | index : t.node? place ≠ some .directory →
      LogStep t place (t.put place (.file (.bytes Panel.emptyIndex)))

/-- The log is made first, then the index. -/
structure LogOpened (t : FileTree) (use : Panel.LogUse) (log index : List String)
    (newLog newIndex : Bool) (after : FileTree) : Prop where
  newLog_iff : newLog = true ↔ (use = .opened ∨ use = .indexGiven) ∧ t.node? log = none
  newIndex_iff : newIndex = true ↔
    use = .opened ∧ t.node? log ≠ some .directory ∧ t.node? index ≠ some .directory
  after_eq : after = (t.leave newLog log []).leave newIndex index Panel.emptyIndex

variable {t before middle after : FileTree} {places others : List String → Prop}
  {place q log index : List String} {path : String} {use : Panel.LogUse}

namespace Touches

theorem refl (t : FileTree) : t.Touches t places :=
  ⟨⟨rfl, fun _ h => h⟩, fun _ h => h, fun _ h => absurd rfl h⟩

theorem trans (h : before.Touches middle places) (h' : middle.Touches after places) :
    before.Touches after places where
  workingDirectory := h'.workingDirectory.trans h.workingDirectory
  directories q hq := h'.directories q (h.directories q hq)
  noDirectory q hq := h.noDirectory q (h'.noDirectory q hq)
  files q hq := by
    by_cases hmiddle : middle.file? q = before.file? q
    · exact h'.files q (hmiddle ▸ hq)
    · exact h.files q hmiddle

theorem mono (h : before.Touches after places) (hplaces : ∀ q, places q → others q) :
    before.Touches after others :=
  ⟨h.toKeepsDirectories, h.noDirectory, fun q hq => hplaces q (h.files q hq)⟩

theorem locate_iff (h : before.Touches after places) :
    after.locate path = .ok q ↔ before.locate path = .ok q :=
  ⟨KeepsDirectories.locate ⟨h.workingDirectory.symm, h.noDirectory⟩, h.locate⟩

end Touches

namespace GainsLogs

theorem refl (t : FileTree) : t.GainsLogs t := fun _ h => absurd rfl h

theorem file?_index (h : before.GainsLogs after)
    (hq : before.file? q = some (.bytes Panel.emptyIndex)) :
    after.file? q = some (.bytes Panel.emptyIndex) := by
  by_cases hsame : after.file? q = before.file? q
  · rw [hsame, hq]
  · rcases h q hsame with ⟨hnone, -⟩ | hindex
    · rw [hq] at hnone
      cases hnone
    · exact hindex

theorem file?_ne_none (h : before.GainsLogs after) (hq : before.file? q ≠ none) :
    after.file? q ≠ none := by
  by_cases hsame : after.file? q = before.file? q
  · rwa [hsame]
  · rcases h q hsame with ⟨hnone, -⟩ | hindex
    · exact absurd hnone hq
    · simp [hindex]

theorem trans (h : before.GainsLogs middle) (h' : middle.GainsLogs after) :
    before.GainsLogs after := by
  intro q hq
  by_cases hlater : after.file? q = middle.file? q
  · rw [hlater] at hq ⊢
    exact h q hq
  · rcases h' q hlater with ⟨hnone, hlog⟩ | hindex
    · by_cases hbefore : before.file? q = none
      · exact .inl ⟨hbefore, hlog⟩
      · exact absurd hnone (h.file?_ne_none hbefore)
    · exact .inr hindex

end GainsLogs

theorem file?_eq_none (h : t.node? place = none) : t.file? place = none := by
  rw [file?, h]

theorem node?_of_file? {content : FileContent} (h : t.file? place = some content) :
    t.node? place = some (.file content) := by
  rw [file?] at h
  split at h
  · next hnode => rw [hnode, Option.some.inj h]
  · cases h

theorem setNode_eq_self {node : FileNode} {nodes : List (List String × FileNode)}
    (h : (nodes.find? fun n => n.1 = place).map (·.2) = some node) :
    setNode place node nodes = nodes := by
  induction nodes with
  | nil => cases h
  | cons n nodes ih =>
    obtain ⟨p, old⟩ := n
    rw [setNode]
    by_cases hp : p = place
    · rw [List.find?_cons_of_pos (by simp [hp])] at h
      rw [if_pos hp, ← Option.some.inj h]
    · rw [List.find?_cons_of_neg (by simp [hp])] at h
      rw [if_neg hp, ih h]

theorem put_eq_self {node : FileNode} (hroot : place ≠ []) (h : t.node? place = some node) :
    t.put place node = t := by
  rw [node?, if_neg hroot] at h
  rw [put, setNode_eq_self h]

theorem ne_root (h : t.node? place ≠ some .directory) : place ≠ [] := by
  rintro rfl
  exact h (node?_root t)

theorem file?_put_file {content : FileContent} (h : t.node? place ≠ some .directory) :
    (t.put place (.file content)).file? place = some content := by
  rw [file?, node?_put_self (ne_root h)]

theorem touches_put_file (content : FileContent) (h : t.node? place ≠ some .directory) :
    t.Touches (t.put place (.file content)) (· = place) := by
  have hgains := gains_put_file content h
  refine ⟨hgains.toKeepsDirectories, fun q hq => ?_, fun q hq => ?_⟩
  · by_cases hplace : place = q
    · subst hplace
      rw [node?_put_self (ne_root h)] at hq
      cases hq
    · rwa [node?_put_of_ne hplace] at hq
  · by_contra hplace
    exact hq (file?_put_of_ne fun heq => hplace heq.symm)

namespace LogStep

theorem touches (h : t.LogStep place after) : t.Touches after (· = place) := by
  cases h with
  | same => exact .refl t
  | log hfree => exact touches_put_file _ (by simp [hfree])
  | index hfree => exact touches_put_file _ hfree

theorem gainsLogs (h : t.LogStep place after) : t.GainsLogs after := by
  intro q hq
  cases h.touches.files q hq
  cases h with
  | same => exact absurd rfl hq
  | log hfree => exact .inl ⟨file?_eq_none hfree, file?_put_file (by simp [hfree])⟩
  | index hfree => exact .inr (file?_put_file hfree)

end LogStep

namespace LogOpened

variable {newLog newIndex : Bool}

theorem logStep (h : t.LogOpened use log index newLog newIndex after) :
    t.LogStep log (t.leave newLog log []) := by
  cases newLog with
  | false => exact .same
  | true => exact .log (h.newLog_iff.mp rfl).2

theorem indexStep (h : t.LogOpened use log index newLog newIndex after) :
    (t.leave newLog log []).LogStep index after := by
  rw [h.after_eq]
  cases newIndex with
  | false => exact .same
  | true =>
    refine .index fun hdirectory => ?_
    exact (h.newIndex_iff.mp rfl).2.2 (h.logStep.touches.noDirectory index hdirectory)

end LogOpened

theorem kind_eq_directory : (t.node? place).map FileNode.kind = some .directory ↔
    t.node? place = some .directory := by
  cases t.node? place with
  | none => simp
  | some node => cases node <;> simp [FileNode.kind]

theorem newLog_ofFound {log index : Option NodeKind} :
    (LogOpening.ofFound use log index).newLog = true ↔
      (use = .opened ∨ use = .indexGiven) ∧ log = none := by
  by_cases hlog : log = some .directory
  · cases use <;> simp [LogOpening.ofFound, hlog]
  · cases use <;> simp [LogOpening.ofFound, hlog]

theorem newIndex_ofFound {log index : Option NodeKind} :
    (LogOpening.ofFound use log index).newIndex = true ↔
      use = .opened ∧ log ≠ some .directory ∧ index ≠ some .directory := by
  by_cases hlog : log = some .directory
  · cases use <;> simp [LogOpening.ofFound, hlog]
  · cases use <;> simp [LogOpening.ofFound, hlog]

theorem exists_logOpened (h : t.LogAt path log index) (use : Panel.LogUse) :
    ∃ newLog newIndex, t.LogOpened use log index newLog newIndex (t.readPanel path use).2 := by
  obtain ⟨⟨content, hcontent, hkeeps⟩, hlog, hindex⟩ := h
  obtain ⟨opening, hopening⟩ : ∃ opening, LogOpening.ofFound use
      ((t.node? log).map FileNode.kind) ((t.node? index).map FileNode.kind) = opening := ⟨_, rfl⟩
  refine ⟨opening.newLog, opening.newIndex, ?_, ?_, ?_⟩
  · rw [← hopening, newLog_ofFound, Option.map_eq_none_iff]
  · simp only [← hopening, newIndex_ofFound, ne_eq, kind_eq_directory]
  · simp only [readPanel, hcontent, hkeeps, if_true, openLog, hlog, hindex, hopening]

theorem readPanel_of_no_log (h : ∀ log index, ¬ t.LogAt path log index) :
    (t.readPanel path use).2 = t := by
  rw [readPanel]
  split
  · rfl
  · next content hcontent =>
    by_cases hkeeps : content.keepsLog = true
    · simp only [hkeeps, if_true, openLog]
      split
      · next log index hlog hindex =>
        exact absurd ⟨⟨content, hcontent, hkeeps⟩, hlog, hindex⟩ (h log index)
      · rfl
    · simp only [hkeeps, Bool.false_eq_true, if_false]

theorem touches_readPanel (t : FileTree) (path : String) (use : Panel.LogUse) :
    t.Touches (t.readPanel path use).2 (t.Beside path) := by
  by_cases hkept : ∃ log index, t.LogAt path log index
  · obtain ⟨log, index, hat⟩ := hkept
    obtain ⟨newLog, newIndex, hopened⟩ := exists_logOpened hat use
    refine (hopened.logStep.touches.mono ?_).trans (hopened.indexStep.touches.mono ?_)
    · rintro q rfl
      exact ⟨Panel.logSuffix, by simp [Panel.companions], hat.log⟩
    · rintro q rfl
      exact ⟨Panel.indexSuffix, by simp [Panel.companions], hat.index⟩
  · rw [readPanel_of_no_log fun log index hat => hkept ⟨log, index, hat⟩]
    exact .refl t

theorem gainsLogs_readPanel (t : FileTree) (path : String) (use : Panel.LogUse) :
    t.GainsLogs (t.readPanel path use).2 := by
  by_cases hkept : ∃ log index, t.LogAt path log index
  · obtain ⟨log, index, hat⟩ := hkept
    obtain ⟨newLog, newIndex, hopened⟩ := exists_logOpened hat use
    exact hopened.logStep.gainsLogs.trans hopened.indexStep.gainsLogs
  · rw [readPanel_of_no_log fun log index hat => hkept ⟨log, index, hat⟩]
    exact .refl t

/-- Where there is no log, an empty one is there after the panel is read. -/
theorem log_of_readPanel (h : t.LogAt path log index) (huse : use = .opened ∨ use = .indexGiven)
    (hfree : t.node? log = none) : (t.readPanel path use).2.file? log ≠ none ∧
      (index ≠ log → (t.readPanel path use).2.file? log = some (.bytes [])) := by
  obtain ⟨newLog, newIndex, hopened⟩ := exists_logOpened h use
  have hmade : (t.leave newLog log []).file? log = some (.bytes []) := by
    rw [hopened.newLog_iff.mpr ⟨huse, hfree⟩]
    exact file?_put_file (by simp [hfree])
  refine ⟨hopened.indexStep.gainsLogs.file?_ne_none (by simp [hmade]), fun hne => ?_⟩
  rw [← hmade]
  by_contra hchanged
  exact hne (hopened.indexStep.touches.files log hchanged).symm

theorem index_of_readPanel (h : t.LogAt path log index) (hlog : t.node? log ≠ some .directory)
    (hfree : t.node? index ≠ some .directory) :
    (t.readPanel path .opened).2.file? index = some (.bytes Panel.emptyIndex) := by
  obtain ⟨newLog, newIndex, hopened⟩ := exists_logOpened h .opened
  rw [hopened.after_eq, hopened.newIndex_iff.mpr ⟨rfl, hlog, hfree⟩]
  refine file?_put_file fun hdirectory => hfree ?_
  exact hopened.logStep.touches.noDirectory index hdirectory

theorem leave_eq_self {data : List UInt8} {makes : Bool}
    (h : makes = true → t.file? place = some (.bytes data) ∧ t.node? place ≠ some .directory) :
    t.leave makes place data = t := by
  cases makes with
  | false => rfl
  | true =>
    obtain ⟨hfile, hfree⟩ := h rfl
    exact put_eq_self (ne_root hfree) (node?_of_file? hfile)

theorem readPanel_eq_self (h : ¬ t.MakesLog path use) : (t.readPanel path use).2 = t := by
  by_cases hkept : ∃ log index, t.LogAt path log index
  · obtain ⟨log, index, hat⟩ := hkept
    obtain ⟨newLog, newIndex, hopened⟩ := exists_logOpened hat use
    have hnoLog : newLog = false := by
      refine Bool.eq_false_iff.mpr fun hnew => h ?_
      obtain ⟨huse, hfree⟩ := hopened.newLog_iff.mp hnew
      exact .log hat huse hfree
    rw [hopened.after_eq, hnoLog]
    refine leave_eq_self fun hnew => ?_
    obtain ⟨rfl, hlogFree, hfree⟩ := hopened.newIndex_iff.mp hnew
    refine ⟨?_, hfree⟩
    by_contra hother
    exact h (.index hat hlogFree hfree hother)
  · exact readPanel_of_no_log fun log index hat => hkept ⟨log, index, hat⟩

/-- Logs and indexes that are made stay, so the files tell afterwards when none was. -/
theorem not_makesLog_of_gainsLogs (h : (t.readPanel path use).2.GainsLogs after)
    (hfiles : ∀ q, after.file? q = t.file? q) : ¬ t.MakesLog path use := by
  intro hmakes
  cases hmakes with
  | @log _ log index hat huse hfree =>
    have hmade := h.file?_ne_none (log_of_readPanel hat huse hfree).1
    rw [hfiles] at hmade
    exact hmade (file?_eq_none hfree)
  | @index log index hat hlogFree hfree hother =>
    have hmade := h.file?_index (index_of_readPanel hat hlogFree hfree)
    rw [hfiles] at hmade
    exact hother hmade

end FileTree

end FleetDrift
