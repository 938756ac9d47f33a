import FleetDrift.CommandLine.Run
import FleetDrift.Storage.FileTree

/-! # Steps that only read
Before a run fetches from its backends, it leaves the files as they are. -/
namespace FleetDrift

theorem run_step_bind {α β : Type} (step : StateM FileTree α) (next : α → StateM FileTree β)
    (t : FileTree) : (step >>= next).run t = (next (step.run t).1).run (step.run t).2 := rfl

/-- The step leaves every tree as it is. -/
def ReadOnly {α : Type} (step : StateM FileTree α) : Prop := ∀ t, (step.run t).2 = t

namespace ReadOnly

variable {α β : Type}

theorem pure (a : α) : ReadOnly (Pure.pure a) := fun _ => rfl

theorem run_bind {step : StateM FileTree α} (h : ReadOnly step) (next : α → StateM FileTree β)
    (t : FileTree) : (step >>= next).run t = (next (step.run t).1).run t := by
  rw [run_step_bind, h t]

theorem bind {step : StateM FileTree α} {next : α → StateM FileTree β} (h : ReadOnly step)
    (hnext : ∀ a, ReadOnly (next a)) : ReadOnly (step >>= next) := by
  intro t
  rw [h.run_bind next t]
  exact hnext _ t

theorem mapM {f : α → StateM FileTree β} (h : ∀ a, ReadOnly (f a)) (xs : List α) :
    ReadOnly (xs.mapM f) := by
  induction xs with
  | nil => exact pure []
  | cons x xs ih =>
    rw [List.mapM_cons]
    exact (h x).bind fun y => ih.bind fun ys => pure (y :: ys)

end ReadOnly

abbrev PanelReading := StateM FileTree (Except DiskFault (Except Panel.QueryFault Panel.Database))

/-- A file tree as storage, of which panels are read in some other way. -/
def FileTree.diskWith (panels : String → Panel.LogUse → PanelReading) : Disk (StateM FileTree) :=
  { disk with readPanel := panels }

open FileTree

variable {panels : String → Panel.LogUse → PanelReading}

theorem readOnly_kindOf (path : String) : ReadOnly ((diskWith panels).kindOf path) := fun _ => rfl

theorem readOnly_read (path : String) : ReadOnly ((diskWith panels).read path) := fun _ => rfl

theorem readOnly_workingDirectory : ReadOnly (diskWith panels).workingDirectory := fun _ => rfl

theorem readOnly_exists? (path : String) : ReadOnly ((diskWith panels).exists? path) :=
  (readOnly_kindOf path).bind fun _ => .pure _

theorem readOnly_isKind (kind : NodeKind) (path : String) :
    ReadOnly ((diskWith panels).isKind kind path) := by
  refine (readOnly_kindOf path).bind fun found => ?_
  cases found with
  | ok found => exact .pure _
  | error fault => exact .pure _

theorem exists?_run (path : String) (t : FileTree) :
    (((diskWith panels).exists? path).run t).1 = (t.find path).isOk := by
  rw [Disk.exists?, (readOnly_kindOf path).run_bind]
  have hkind : (((diskWith panels).kindOf path).run t).1 = (t.find path).map FileNode.kind := rfl
  rw [hkind]
  cases t.find path <;> rfl

theorem isKind_run_of_find {path : String} {t : FileTree} {node : FileNode}
    (h : t.find path = .ok node) (kind : NodeKind) :
    (((diskWith panels).isKind kind path).run t).1 = decide (node.kind = kind) := by
  rw [Disk.isKind, (readOnly_kindOf path).run_bind]
  have hkind : (((diskWith panels).kindOf path).run t).1 = (t.find path).map FileNode.kind := rfl
  rw [hkind, h]
  rfl

theorem read_run_of_find {path : String} {t : FileTree} {bytes : List UInt8}
    (h : t.find path = .ok (.file (.bytes bytes))) :
    (((diskWith panels).read path).run t).1 = .ok bytes := by
  have hread : (((diskWith panels).read path).run t).1 = t.readBytes path := rfl
  rw [hread, readBytes, FileTree.read, h]
  rfl

theorem readOnly_follow (place steps : List String) :
    ReadOnly ((diskWith panels).follow place steps) := by
  induction steps generalizing place with
  | nil => exact .pure _
  | cons step steps ih =>
    rw [Disk.follow]
    by_cases hstays : Path.staysInPlace step
    · rw [if_pos hstays]
      exact ih place
    · rw [if_neg hstays]
      by_cases hback : step = ".."
      · rw [if_pos hback]
        exact ih _
      · rw [if_neg hback]
        refine (readOnly_kindOf _).bind fun found => ?_
        split
        · exact ih _
        · exact ih _
        · exact .pure _

namespace CommandLine

structure Surroundings.OnTree (s : Surroundings (StateM FileTree)) : Prop where
  disk : s.disk = diskWith s.disk.readPanel
  clock : ReadOnly s.clock

variable {s : Surroundings (StateM FileTree)}

theorem readOnly_defaultConfig (hs : s.OnTree) : ReadOnly (defaultConfig s) := by
  rw [defaultConfig, hs.disk]
  refine (readOnly_exists? _).bind fun there => ?_
  cases there with
  | true => exact .pure _
  | false =>
    cases userConfigDirectory? s.environment with
    | some dir => exact .pure _
    | none => exact .pure _

theorem readOnly_settingsContent (hs : s.OnTree) (path : String) :
    ReadOnly (settingsContent s path) := by
  rw [settingsContent, hs.disk]
  refine (readOnly_isKind _ _).bind fun isFile => ?_
  cases isFile
  all_goals
    refine (ReadOnly.pure _).bind fun found => ?_
    cases found with
    | none => exact .pure _
    | some found => exact (readOnly_read found).bind fun _ => .pure _

theorem readOnly_loadSettings (hs : s.OnTree) (o : Options) : ReadOnly (loadSettings s o) := by
  rw [loadSettings, hs.disk]
  cases o.config
  case' some path => refine (ReadOnly.pure _).bind ?_
  case' none => refine (readOnly_defaultConfig hs).bind ?_
  all_goals
    intro path
    refine (readOnly_exists? path).bind fun there => ?_
    split
    · exact .pure _
    · refine (readOnly_settingsContent hs path).bind fun content => ?_
      split
      · exact .pure _
      · split <;> exact .pure _

section LocalSettings

variable {o : Options} {t : FileTree} (hs : s.OnTree) (hconfig : o.config = none)

include hs hconfig

theorem loadSettings_of_file {bytes : List UInt8} {settings : Settings}
    (hfile : t.find localConfig = .ok (.file (.bytes bytes)))
    (hload : Settings.load localConfig (some bytes) s.environment = .ok settings)
    (hbackends : settings.backends ≠ []) : ((loadSettings s o).run t).1 = .ok settings := by
  have hdefault : ((defaultConfig s).run t).1 = localConfig := by
    rw [defaultConfig, hs.disk, (readOnly_exists? _).run_bind, exists?_run, hfile]
    rfl
  have hcontent : ((settingsContent s localConfig).run t).1 = some bytes := by
    rw [settingsContent, hs.disk, (readOnly_isKind _ _).run_bind, isKind_run_of_find hfile]
    simp only [FileNode.kind, decide_true, if_true, pure_bind]
    rw [(readOnly_read _).run_bind, read_run_of_find hfile]
    rfl
  rw [loadSettings, hconfig]
  simp only
  rw [(readOnly_defaultConfig hs).run_bind, hdefault, hs.disk, (readOnly_exists? _).run_bind,
    exists?_run, hfile]
  have hthere :
      (Except.ok (FileNode.file (.bytes bytes)) : Except DiskFault FileNode).isOk = true := rfl
  have hsome : (o.input.isNone && settings.backends.isEmpty) = false := by simp [hbackends]
  simp only [hthere, Bool.not_true, Bool.and_false, Bool.false_eq_true, if_false]
  rw [(readOnly_settingsContent hs _).run_bind, hcontent, hload]
  simp only [hsome, Bool.false_eq_true, if_false]
  rfl

theorem loadSettings_of_missing (hinput : o.input.isSome)
    (hmissing : t.find localConfig = .error .notFound)
    (huser : userConfigDirectory? s.environment = none) :
    ((loadSettings s o).run t).1 = .ok .default := by
  have hdefault : ((defaultConfig s).run t).1 = localConfig := by
    rw [defaultConfig, hs.disk, (readOnly_exists? _).run_bind, exists?_run, hmissing, huser]
    rfl
  rw [loadSettings, hconfig]
  simp only
  rw [(readOnly_defaultConfig hs).run_bind, hdefault, hs.disk, (readOnly_exists? _).run_bind,
    exists?_run, hmissing, hinput]
  rfl

end LocalSettings

theorem readOnly_scanOfFile (hs : s.OnTree) (path : String) : ReadOnly (scanOfFile s path) := by
  rw [scanOfFile, hs.disk]
  refine (readOnly_read path).bind fun found => ?_
  split
  · exact .pure _
  · split
    · exact .pure _
    · split <;> exact .pure _

end CommandLine

end FleetDrift
