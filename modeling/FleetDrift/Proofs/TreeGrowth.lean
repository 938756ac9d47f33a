import FleetDrift.Proofs.ReadOnlySteps
import FleetDrift.Proofs.WellFormedReading

/-! # How a file tree grows
Making a directory and writing a file change a tree at one place. What was a directory stays one, so
a path that led somewhere before still leads there. -/
namespace FleetDrift

namespace FileTree

variable {t before middle after : FileTree} {place q : List String} {node : FileNode}

def file? (t : FileTree) (place : List String) : Option FileContent :=
  match t.node? place with
  | some (.file content) => some content
  | _ => none

structure KeepsDirectories (before after : FileTree) : Prop where
  workingDirectory : after.workingDirectory = before.workingDirectory
  directories : ∀ q, before.node? q = some .directory → after.node? q = some .directory

/-- All files are as they were except at some places, and no directory is lost. -/
structure Gains (before after : FileTree) (places : List (List String)) : Prop
    extends before.KeepsDirectories after where
  files : ∀ q, q ∉ places → after.file? q = before.file? q

namespace Gains

variable {places others : List (List String)}

theorem refl (t : FileTree) : t.Gains t places := ⟨⟨rfl, fun _ h => h⟩, fun _ _ => rfl⟩

theorem trans (h : before.Gains middle places) (h' : middle.Gains after others) :
    before.Gains after (places ++ others) where
  workingDirectory := h'.workingDirectory.trans h.workingDirectory
  directories q hq := h'.directories q (h.directories q hq)
  files q hq := by
    rw [List.mem_append, not_or] at hq
    rw [h'.files q hq.2, h.files q hq.1]

end Gains

theorem find?_setNode (nodes : List (List String × FileNode)) :
    ((setNode place node nodes).find? fun n => n.1 = q) =
      if place = q then some (place, node) else nodes.find? fun n => n.1 = q := by
  induction nodes with
  | nil =>
    rw [setNode, List.find?_singleton]
    simp only [decide_eq_true_eq, List.find?_nil]
  | cons n nodes ih =>
    obtain ⟨p, old⟩ := n
    rw [setNode]
    by_cases hp : p = place
    · subst hp
      rw [if_pos rfl, List.find?_cons, List.find?_cons]
      by_cases hq : p = q
      · simp [hq]
      · simp [hq]
    · rw [if_neg hp, List.find?_cons, List.find?_cons, ih]
      by_cases hq : p = q
      · subst hq
        simp [Ne.symm hp]
      · simp [hq]

theorem node?_put_self (h : place ≠ []) : (t.put place node).node? place = some node := by
  rw [node?, if_neg h, put, find?_setNode, if_pos rfl, Option.map_some]

theorem node?_put_of_ne (h : place ≠ q) : (t.put place node).node? q = t.node? q := by
  rw [node?, put, find?_setNode, if_neg h, node?]

theorem node?_root (t : FileTree) : t.node? [] = some .directory := if_pos rfl

theorem file?_put_of_ne (h : place ≠ q) : (t.put place node).file? q = t.file? q := by
  rw [file?, node?_put_of_ne h, file?]

theorem makeDirectory_eq_ok {path : String} (h : t.makeDirectory path = .ok after) :
    ∃ place, t.node? place = none ∧ after = t.put place .directory := by
  rw [makeDirectory, Json.bind_eq_ok] at h
  obtain ⟨-, -, h⟩ := h
  obtain ⟨parent, -, h⟩ := Json.bind_eq_ok.mp h
  obtain ⟨place, -, h⟩ := Json.bind_eq_ok.mp h
  split at h
  · cases h
  · next hfree =>
    simp only [Bool.or_eq_true, not_or, Bool.not_eq_true, Option.isSome_eq_false_iff] at hfree
    exact ⟨place, Option.isNone_iff_eq_none.mp hfree.2, (Except.ok.inj h).symm⟩

theorem write_eq_ok {path content : String} (h : t.write path content = .ok after) :
    ∃ place, t.locate path = .ok place ∧ t.node? place ≠ some .directory ∧
      after = t.put place (.file (.bytes content.toUTF8.toList)) := by
  rw [write] at h
  obtain ⟨place, hplace, h⟩ := Json.bind_eq_ok.mp h
  refine ⟨place, hplace, ?_⟩
  split at h
  · cases h
  · cases h
  · cases h
  · next hdirectory => exact ⟨hdirectory, (Except.ok.inj h).symm⟩

theorem gains_put_directory (h : t.node? place = none) :
    t.Gains (t.put place .directory) [] where
  workingDirectory := rfl
  directories q hq := by
    rwa [node?_put_of_ne]
    rintro rfl
    rw [h] at hq
    cases hq
  files q _ := by
    by_cases hq : place = q
    · have hroot : place ≠ [] := by
        rintro rfl
        rw [node?_root] at h
        cases h
      rw [file?, file?, ← hq, node?_put_self hroot, h]
    · exact file?_put_of_ne hq

theorem gains_put_file (content : FileContent) (h : t.node? place ≠ some .directory) :
    t.Gains (t.put place (.file content)) [place] where
  workingDirectory := rfl
  directories q hq := by
    rwa [node?_put_of_ne]
    rintro rfl
    exact h hq
  files q hq := file?_put_of_ne fun hplace => hq (List.mem_singleton.mpr hplace.symm)

namespace KeepsDirectories

variable {name path : String}

theorem step (h : before.KeepsDirectories after) (hstep : before.step place name = .ok q) :
    after.step place name = .ok q := by
  rw [FileTree.step] at hstep ⊢
  split at hstep
  · cases hstep
  · cases hstep
  · next hdirectory =>
    rw [h.directories place hdirectory]
    exact hstep

theorem steps (h : before.KeepsDirectories after) {names : List String}
    (hsteps : names.foldlM before.step place = .ok q) : names.foldlM after.step place = .ok q := by
  induction names generalizing place with
  | nil => exact hsteps
  | cons name names ih =>
    rw [List.foldlM_cons, Json.bind_eq_ok] at hsteps ⊢
    obtain ⟨next, hnext, hsteps⟩ := hsteps
    exact ⟨next, h.step hnext, ih hsteps⟩

theorem start (h : before.KeepsDirectories after) (path : String) :
    after.start path = before.start path := by
  rw [FileTree.start, h.workingDirectory, FileTree.start]

theorem locate (h : before.KeepsDirectories after) (hlocate : before.locate path = .ok q) :
    after.locate path = .ok q := by
  rw [FileTree.locate, Json.bind_eq_ok] at hlocate ⊢
  obtain ⟨checked, hcheck, hsteps⟩ := hlocate
  refine ⟨checked, hcheck, ?_⟩
  rw [h.start path]
  exact h.steps hsteps

end KeepsDirectories

end FileTree

/-- The step changes no file. -/
def OnlyExtends {α : Type} (step : StateM FileTree α) : Prop :=
  ∀ t : FileTree, t.Gains (step.run t).2 []

namespace OnlyExtends

variable {α β : Type}

theorem ofReadOnly {step : StateM FileTree α} (h : ReadOnly step) : OnlyExtends step := by
  intro t
  rw [h t]
  exact FileTree.Gains.refl t

theorem bind {step : StateM FileTree α} {next : α → StateM FileTree β} (h : OnlyExtends step)
    (hnext : ∀ a, OnlyExtends (next a)) : OnlyExtends (step >>= next) := by
  intro t
  exact (h t).trans (hnext (step.run t).1 (step.run t).2)

end OnlyExtends

open FileTree

theorem onlyExtends_makeDirectory (path : String) : OnlyExtends (disk.makeDirectory path) := by
  intro t
  have hrun : (disk.makeDirectory path).run t = FileTree.change (·.makeDirectory path) t := rfl
  rw [hrun, FileTree.change]
  cases hmade : t.makeDirectory path with
  | error fault => exact Gains.refl t
  | ok after =>
    obtain ⟨place, hfree, rfl⟩ := makeDirectory_eq_ok hmade
    exact gains_put_directory hfree

theorem onlyExtends_settle (path : String) (result : Except DiskFault Unit) :
    OnlyExtends (disk.settle path result) := by
  apply OnlyExtends.ofReadOnly
  cases result with
  | ok made => exact .pure _
  | error fault =>
    refine (readOnly_isKind .directory path).bind fun there => ?_
    split <;> exact .pure _

theorem onlyExtends_makeWithin (path : String) (outers : List String) :
    OnlyExtends (disk.makeWithin path outers) := by
  -- on the directories above, since each of them is tried for the path below it
  induction outers generalizing path with
  | nil =>
    rw [Disk.makeWithin]
    exact (onlyExtends_makeDirectory path).bind fun _ => onlyExtends_settle _ _
  | cons outer outers ih =>
    rw [Disk.makeWithin]
    refine (onlyExtends_makeDirectory path).bind fun made => ?_
    split
    · refine (ih outer).bind fun around => ?_
      split
      · exact .ofReadOnly (.pure _)
      · exact (onlyExtends_makeDirectory path).bind fun _ => onlyExtends_settle _ _
    · exact onlyExtends_settle _ _

theorem onlyExtends_makeDirectories (path : String) :
    OnlyExtends (disk.makeDirectories path) := by
  rw [Disk.makeDirectories]
  by_cases hempty : path = ""
  · rw [if_pos hempty]
    exact .ofReadOnly (.pure _)
  · rw [if_neg hempty]
    exact onlyExtends_makeWithin _ _

end FleetDrift
