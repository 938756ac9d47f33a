import FleetDrift.Proofs.PanelCompanions

/-! # Panels of a scan
A scan reads panels where its backends say they are, and changes no file that is not beside one of
them. It changes none at all if and only if no log has to be made for a panel that it reads. -/
namespace FleetDrift

def Path.stepFrom (place : List String) (step : String) : List String :=
  if staysInPlace step then place else if step = ".." then place.dropLast else place ++ [step]

/-- Where steps lead by their names alone. -/
def Path.resolve (place steps : List String) : List String := steps.foldl stepFrom place

namespace FileTree

def startOf (t : FileTree) (name : String) : List String :=
  if Path.isAbsolute name then [] else Path.names (Path.fromRoot t.workingDirectory)

def panelPath (t : FileTree) (name : String) : String :=
  Path.fromRoot (Path.resolve (t.startOf name) (Path.steps name))

/-- No step is below a file or has a name that cannot be. Names may be missing. -/
def ClearWay (t : FileTree) (place steps : List String) : Prop :=
  ∀ before step after fault, steps = before ++ step :: after → Path.staysInPlace step = false →
    step ≠ ".." → t.find (Path.fromRoot (Path.resolve place before ++ [step])) = .error fault →
    fault = .notFound

structure LeadsTo (t : FileTree) (name path : String) : Prop where
  path_eq : t.panelPath name = path
  clear : t.ClearWay (t.startOf name) (Path.steps name)
  belowRoot : Path.resolve (t.startOf name) (Path.steps name) ≠ []

end FileTree

structure Backend.ReadsAt (b : Backend) (t : FileTree) (path : String) (use : Panel.LogUse) :
    Prop where
  kind : b.kind = .sqlite
  named : ∃ name, Panel.Address.ofText b.path = .ok (.file name use) ∧ t.LeadsTo name path

def FileTree.BesidePanels (t : FileTree) (backends : List Backend) (q : List String) : Prop :=
  ∃ b ∈ backends, b.kind = .sqlite ∧ ∃ name use,
    Panel.Address.ofText b.path = .ok (.file name use) ∧ t.Beside (t.panelPath name) q

def StaysBeside (panels : String → Panel.LogUse → PanelReading) : Prop :=
  ∀ path use (t : FileTree), t.Touches ((panels path use).run t).2 (t.Beside path)

open FileTree

variable {t before after : FileTree} {places : List String → Prop} {place q : List String}
  {path : String} {use : Panel.LogUse} {b : Backend} {backends : List Backend}
  {panels : String → Panel.LogUse → PanelReading}

theorem staysBeside_disk : StaysBeside disk.readPanel :=
  fun path use t => touches_readPanel t path use

theorem FileTree.Touches.besidePanels_iff (h : before.Touches after places) :
    after.BesidePanels backends q ↔ before.BesidePanels backends q := by
  simp only [BesidePanels, Beside, panelPath, startOf, h.workingDirectory, h.locate_iff]

theorem clearWay_cons {step : String} {steps : List String} :
    t.ClearWay place (step :: steps) ↔
      (Path.staysInPlace step = false → step ≠ ".." → ∀ fault,
        t.find (Path.fromRoot (place ++ [step])) = .error fault → fault = .notFound) ∧
      t.ClearWay (Path.stepFrom place step) steps := by
  constructor
  · intro h
    refine ⟨fun hstays hback fault => h [] step steps fault rfl hstays hback, ?_⟩
    intro before name after fault hsteps
    exact h (step :: before) name after fault (congrArg (step :: ·) hsteps)
  · rintro ⟨hfirst, hrest⟩ before name after fault hsteps
    cases before with
    | nil =>
      cases hsteps
      exact fun hstays hback => hfirst hstays hback fault
    | cons first before =>
      cases hsteps
      exact hrest before name after fault rfl

theorem leadsTo_name {name : String} {node : FileNode} (hname : Path.IsName name)
    (hplace : t.startOf name ++ [name] = place) (hfind : t.find (Path.fromRoot place) = .ok node) :
    t.LeadsTo name (Path.fromRoot place) := by
  have hresolve : Path.resolve (t.startOf name) (Path.steps name) = place := by
    rw [hname.steps_eq, Path.resolve, List.foldl_cons, List.foldl_nil, Path.stepFrom,
      if_neg (by simp [hname.not_staysInPlace]), if_neg hname.notAbove, hplace]
  refine ⟨by rw [panelPath, hresolve], ?_, by simp [hresolve, ← hplace]⟩
  rw [hname.steps_eq, clearWay_cons]
  refine ⟨fun _ _ fault hfault => ?_, ?_⟩
  · rw [hplace, hfind] at hfault
    cases hfault
  · intro before step after fault hsteps
    simp at hsteps

theorem kindOf_run (path : String) (t : FileTree) :
    (((diskWith panels).kindOf path).run t).1 = (t.find path).map FileNode.kind := rfl

theorem follow_run {steps reached : List String} :
    (((diskWith panels).follow place steps).run t).1 = .ok reached ↔
      t.ClearWay place steps ∧ Path.resolve place steps = reached := by
  induction steps generalizing place with
  | nil =>
    have hclear : t.ClearWay place [] := by
      intro before name after fault hsteps
      simp at hsteps
    exact ⟨fun h => ⟨hclear, Except.ok.inj h⟩, fun h => congrArg Except.ok h.2⟩
  | cons step steps ih =>
    rw [Disk.follow, clearWay_cons, Path.resolve, List.foldl_cons, ← Path.resolve]
    by_cases hstays : Path.staysInPlace step
    · have hplace : Path.stepFrom place step = place := if_pos hstays
      simp only [hstays, if_true, hplace, Bool.true_eq_false, false_imp_iff, true_and]
      exact ih
    · have hstays : Path.staysInPlace step = false := Bool.eq_false_iff.mpr hstays
      by_cases hback : step = ".."
      · subst hback
        have hplace : Path.stepFrom place ".." = place.dropLast := by
          rw [Path.stepFrom, hstays, if_neg Bool.false_ne_true, if_pos rfl]
        simp only [hplace, ne_eq, not_true, false_imp_iff, implies_true, true_and, if_true]
        exact ih
      · have hplace : Path.stepFrom place step = place ++ [step] := by
          rw [Path.stepFrom, hstays, if_neg Bool.false_ne_true, if_neg hback]
        simp only [hstays, hback, hplace, ne_eq, not_false_eq_true, true_imp_iff,
          Bool.false_eq_true, if_false]
        rw [(readOnly_kindOf _).run_bind, kindOf_run]
        cases t.find (Path.fromRoot (place ++ [step])) with
        | ok node => simpa [Except.map] using ih
        | error fault =>
          cases fault with
          | notFound => simpa [Except.map] using ih
          | _ => simp [Except.map]

theorem openFile_run (name : String) (use : Panel.LogUse) (t : FileTree) :
    (((diskWith panels).openFile name use).run t).2 =
      match (((diskWith panels).follow (t.startOf name) (Path.steps name)).run t).1 with
      | .error _ => t
      | .ok place => if place = [] then t else ((panels (Path.fromRoot place) use).run t).2 := by
  have hworking : ((diskWith panels).workingDirectory.run t).1 =
      Path.fromRoot t.workingDirectory := rfl
  rw [Disk.openFile, startOf]
  by_cases habsolute : Path.isAbsolute name
  case' pos => rw [if_pos habsolute, if_pos habsolute, pure_bind]
  case' neg =>
    rw [if_neg habsolute, if_neg habsolute, readOnly_workingDirectory.run_bind, hworking,
      pure_bind]
  -- the rest is the same wherever the path starts
  all_goals
    rw [(readOnly_follow _ _).run_bind]
    generalize (((diskWith panels).follow _ (Path.steps name)).run t).1 = reached
    cases reached with
    | error fault => rfl
    | ok place =>
      by_cases hroot : place = []
      · simp only [hroot, if_true]
        rfl
      · simp only [hroot, if_false]
        rw [run_step_bind]
        split <;> rfl

theorem openFile_run_of_leadsTo {name : String} (h : t.LeadsTo name path) :
    (((diskWith panels).openFile name use).run t).2 = ((panels path use).run t).2 := by
  rw [openFile_run, follow_run.mpr ⟨h.clear, rfl⟩, ← h.path_eq]
  exact if_neg h.belowRoot

theorem openFile_run_of_lost {name : String} (h : ∀ path, ¬ t.LeadsTo name path) :
    (((diskWith panels).openFile name use).run t).2 = t := by
  rw [openFile_run]
  split
  · rfl
  · next place hplace =>
    obtain ⟨hclear, rfl⟩ := follow_run.mp hplace
    by_cases hroot : Path.resolve (t.startOf name) (Path.steps name) = []
    · exact if_pos hroot
    · exact absurd ⟨rfl, hclear, hroot⟩ (h _)

theorem fetch_run_of_sqlite (hkind : b.kind = .sqlite) :
    ((b.fetch (diskWith panels)).run t).2 = (((diskWith panels).openPanel b.path).run t).2 := by
  simp only [Backend.fetch, hkind, run_step_bind]
  rfl

theorem fetch_run_of_readsAt (h : b.ReadsAt t path use) :
    ((b.fetch (diskWith panels)).run t).2 = ((panels path use).run t).2 := by
  obtain ⟨hkind, name, haddress, hleads⟩ := h
  rw [fetch_run_of_sqlite hkind, Disk.openPanel, haddress]
  exact openFile_run_of_leadsTo hleads

theorem fetch_run_of_not_readsAt (h : ∀ path use, ¬ b.ReadsAt t path use) :
    ((b.fetch (diskWith panels)).run t).2 = t := by
  cases hkind : b.kind with
  | json =>
    simp only [Backend.fetch, hkind]
    rfl
  | sqlite =>
    rw [fetch_run_of_sqlite hkind, Disk.openPanel]
    split
    · rfl
    · rfl
    · next name use haddress =>
      refine openFile_run_of_lost fun path hleads => ?_
      exact h path use ⟨hkind, name, haddress, hleads⟩

theorem fetch_run (b : Backend) (t : FileTree) :
    (∃ path use, b.ReadsAt t path use ∧
      ((b.fetch (diskWith panels)).run t).2 = ((panels path use).run t).2) ∨
    ((b.fetch (diskWith panels)).run t).2 = t := by
  by_cases hreads : ∃ path use, b.ReadsAt t path use
  · obtain ⟨path, use, hreads⟩ := hreads
    exact .inl ⟨path, use, hreads, fetch_run_of_readsAt hreads⟩
  · exact .inr (fetch_run_of_not_readsAt fun path use hpath => hreads ⟨path, use, hpath⟩)

theorem fetch_eq_self (h : ∀ path use, b.ReadsAt t path use → ((panels path use).run t).2 = t) :
    ((b.fetch (diskWith panels)).run t).2 = t := by
  rcases fetch_run b t with ⟨path, use, hreads, hrun⟩ | hrun
  · exact hrun.trans (h path use hreads)
  · exact hrun

theorem touches_fetch (hpanels : StaysBeside panels) (b : Backend) (t : FileTree) :
    t.Touches ((b.fetch (diskWith panels)).run t).2 (t.BesidePanels [b]) := by
  rcases fetch_run b t with ⟨path, use, ⟨hkind, name, haddress, hleads⟩, hrun⟩ | hrun
  · rw [hrun]
    refine (hpanels path use t).mono fun q hq => ?_
    rw [← hleads.path_eq] at hq
    exact ⟨b, List.mem_singleton_self b, hkind, name, use, haddress, hq⟩
  · rw [hrun]
    exact .refl t

theorem gainsLogs_fetch (b : Backend) (t : FileTree) :
    t.GainsLogs ((b.fetch (diskWith disk.readPanel)).run t).2 := by
  rcases fetch_run b t with ⟨path, use, -, hrun⟩ | hrun
  · rw [hrun]
    exact gainsLogs_readPanel t path use
  · rw [hrun]
    exact .refl t

variable {clock : StateM FileTree Nat}

theorem sourceOf_run (hclock : ReadOnly clock) (b : Backend) (t : FileTree) :
    ((Scan.sourceOf (diskWith panels) clock b).run t).2 =
      ((b.fetch (diskWith panels)).run t).2 := by
  rw [Scan.sourceOf, hclock.run_bind, run_step_bind, hclock.run_bind]
  rfl

theorem touches_mapM_sourceOf (hclock : ReadOnly clock) (hpanels : StaysBeside panels)
    (backends : List Backend) (t : FileTree) :
    t.Touches ((backends.mapM (Scan.sourceOf (diskWith panels) clock)).run t).2
      (t.BesidePanels backends) := by
  induction backends generalizing t with
  | nil => exact .refl t
  | cons b backends ih =>
    have hfirst := touches_fetch hpanels b t
    rw [← sourceOf_run hclock] at hfirst
    have hrest := ih ((Scan.sourceOf (diskWith panels) clock b).run t).2
    rw [List.mapM_cons, run_step_bind, run_step_bind]
    refine (hfirst.mono ?_).trans (hrest.mono ?_)
    · rintro q ⟨_, hb, hq⟩
      exact ⟨b, List.mem_cons_self, List.mem_singleton.mp hb ▸ hq⟩
    · intro q hq
      obtain ⟨b', hb', hq⟩ := hfirst.besidePanels_iff.mp hq
      exact ⟨b', List.mem_cons_of_mem b hb', hq⟩

theorem mapM_sourceOf_eq_self (hclock : ReadOnly clock)
    (h : ∀ b ∈ backends, ∀ path use, b.ReadsAt t path use → ((panels path use).run t).2 = t) :
    ((backends.mapM (Scan.sourceOf (diskWith panels) clock)).run t).2 = t := by
  induction backends with
  | nil => rfl
  | cons b backends ih =>
    have hfirst := fetch_eq_self (h b List.mem_cons_self)
    rw [← sourceOf_run hclock] at hfirst
    rw [List.mapM_cons, run_step_bind, run_step_bind, hfirst]
    exact ih fun b' hb' => h b' (List.mem_cons_of_mem b hb')

theorem gainsLogs_mapM_sourceOf (hclock : ReadOnly clock) (backends : List Backend)
    (t : FileTree) :
    t.GainsLogs ((backends.mapM (Scan.sourceOf (diskWith disk.readPanel) clock)).run t).2 := by
  induction backends generalizing t with
  | nil => exact .refl t
  | cons b backends ih =>
    have hfirst := gainsLogs_fetch b t
    rw [← sourceOf_run hclock] at hfirst
    rw [List.mapM_cons, run_step_bind, run_step_bind]
    exact hfirst.trans (ih _)

/-- No file changes if and only if no log is made for a panel that is read. -/
theorem mapM_sourceOf_unchanged_iff (hclock : ReadOnly clock) (backends : List Backend)
    (t : FileTree) :
    (∀ q, ((backends.mapM (Scan.sourceOf (diskWith disk.readPanel) clock)).run t).2.file? q =
      t.file? q) ↔
    ∀ b ∈ backends, ∀ path use, b.ReadsAt t path use → ¬ t.MakesLog path use := by
  constructor
  · intro hfiles
    induction backends with
    | nil => simp
    | cons b backends ih =>
      rw [List.mapM_cons, run_step_bind, run_step_bind, sourceOf_run hclock] at hfiles
      have hlater := gainsLogs_mapM_sourceOf hclock backends
        ((b.fetch (diskWith disk.readPanel)).run t).2
      have hfirst : ∀ path use, b.ReadsAt t path use → ¬ t.MakesLog path use := by
        intro path use hreads
        rw [fetch_run_of_readsAt hreads] at hlater hfiles
        exact not_makesLog_of_gainsLogs hlater hfiles
      have hsame : ((b.fetch (diskWith disk.readPanel)).run t).2 = t :=
        fetch_eq_self fun path use hreads => readPanel_eq_self (hfirst path use hreads)
      rw [hsame] at hfiles
      exact List.forall_mem_cons.mpr ⟨hfirst, ih hfiles⟩
  · intro hnone q
    have hsame : ∀ b ∈ backends, ∀ path use, b.ReadsAt t path use →
        ((disk.readPanel path use).run t).2 = t := fun b hb path use hreads =>
      readPanel_eq_self (hnone b hb path use hreads)
    rw [mapM_sourceOf_eq_self hclock hsame]

theorem mapM_sourceOf_singleton (hclock : ReadOnly clock) (b : Backend) (t : FileTree) :
    (([b].mapM (Scan.sourceOf (diskWith panels) clock)).run t).2 =
      ((b.fetch (diskWith panels)).run t).2 := by
  rw [← sourceOf_run hclock, List.mapM_cons, run_step_bind, run_step_bind]
  rfl

theorem ofBackends_run (hclock : ReadOnly clock) (backends : List Backend) (t : FileTree) :
    ((Scan.ofBackends (diskWith panels) clock backends).run t).2 =
      ((backends.mapM (Scan.sourceOf (diskWith panels) clock)).run t).2 := by
  rw [Scan.ofBackends]
  cases backends with
  | nil => rfl
  | cons b backends =>
    simp only [List.isEmpty_cons, Bool.false_eq_true, if_false]
    rw [run_step_bind, hclock.run_bind, hclock.run_bind]
    rfl

namespace CommandLine

variable {s : Surroundings (StateM FileTree)} {o : Options}

theorem scan_run (hs : s.OnTree) (o : Options) (settings : Settings) (t : FileTree) :
    ((CommandLine.scan s o settings).run t).2 =
      if o.input.isSome then t else
        ((settings.backends.mapM (Scan.sourceOf (diskWith s.disk.readPanel) s.clock)).run t).2 := by
  rw [scan]
  cases o.input with
  | some path =>
    simp only
    rw [(readOnly_scanOfFile hs path).run_bind]
    rfl
  | none =>
    simp only
    rw [run_step_bind, hs.disk]
    exact ofBackends_run hs.clock settings.backends t

end CommandLine

end FleetDrift
