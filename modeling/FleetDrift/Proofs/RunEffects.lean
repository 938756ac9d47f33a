import FleetDrift.Proofs.ArgumentLists
import FleetDrift.Proofs.FreshDirectories
import FleetDrift.Proofs.ScannedPanels

/-! # What a run writes
A run reads its settings and its snapshot or backends first, and may leave files beside panels then.
If that fails, or no plan or no format answers to the request, nothing is written. Otherwise it
writes the plan, if there is one, or the files of the report, unless it is not to write at all. -/
namespace FleetDrift

namespace CommandLine

open FileTree

structure Surroundings.Named (s : Surroundings (StateM FileTree)) : Prop extends s.OnTree where
  panels : StaysBeside s.disk.readPanel
  stamp : Path.IsName s.stamp
  runName : Path.IsName s.runName

structure ReadTo (s : Surroundings (StateM FileTree)) (o : Options) (t : FileTree)
    (settings : Settings) (scan : Scan) (perf : PerfReport) : Prop where
  loaded : ((loadSettings s o).run t).1 = .ok settings
  scanned : ((CommandLine.scan s o settings).run t).1 = .ok (scan, perf)

/-- The files after all that a run reads. -/
def scannedTree (s : Surroundings (StateM FileTree)) (o : Options) (t : FileTree) : FileTree :=
  match ((loadSettings s o).run t).1 with
  | .error _ => t
  | .ok settings => ((scan s o settings).run t).2

inductive Stops (s : Surroundings (StateM FileTree)) (o : Options) (t : FileTree) :
    String → Prop where
  | settings {message : String} : ((loadSettings s o).run t).1 = .error message →
      Stops s o t message
  | scan {settings : Settings} {message : String} :
      ((loadSettings s o).run t).1 = .ok settings →
      ((CommandLine.scan s o settings).run t).1 = .error message → Stops s o t message
  | plan {settings : Settings} {scan : Scan} {perf : PerfReport} {q : PlanRequest} {e : PlanError} :
      ReadTo s o t settings scan perf → o.plan = some q →
      scan.report.plan q.identity q.protocol q.source = .error e → Stops s o t e.message
  | format {settings : Settings} {scan : Scan} {perf : PerfReport} :
      ReadTo s o t settings scan perf → o.plan = none → o.dryRun = false →
      o.format ∉ ["json", "html", "all"] → Stops s o t ("Unknown format: " ++ o.format)

inductive Formatted (report : Report) : String → List Output → Prop where
  | json : Formatted report "json" [⟨"json", report.toValue.pretty⟩]
  | html : Formatted report "html" [⟨"html", Render.page report⟩]
  | all : Formatted report "all"
      [⟨"json", report.toValue.pretty⟩, ⟨"html", Render.page report⟩]

inductive Wants (o : Options) (report : Report) : List Output → Prop where
  | plan {q : PlanRequest} {plan : Plan} : o.plan = some q → o.dryRun = false →
      report.plan q.identity q.protocol q.source = .ok (.ready plan) →
      Wants o report [⟨"plan.json", plan.toValue.pretty⟩]
  | reports {files : List Output} : o.plan = none → o.dryRun = false →
      Formatted report o.format files → Wants o report files

inductive Idle (o : Options) (report : Report) : Prop where
  | plan {q : PlanRequest} {outcome : PlanOutcome} : o.plan = some q →
      report.plan q.identity q.protocol q.source = .ok outcome →
      outcome.plan? = none ∨ o.dryRun = true → Idle o report
  | reports : o.plan = none → o.dryRun = true → Idle o report

variable {s : Surroundings (StateM FileTree)} {o : Options} {t : FileTree} {settings : Settings}
  {scan : Scan} {perf : PerfReport} {message : String} {files : List Output}

theorem isSound_outputPlace (hs : s.Named) (settings : Settings) :
    (outputPlace s settings).IsSound :=
  ⟨hs.stamp.isDirectoryPath_join settings.outputDir, hs.runName⟩

theorem scannedTree_of_error (h : ((loadSettings s o).run t).1 = .error message) :
    scannedTree s o t = t := by
  rw [scannedTree, h]

theorem scannedTree_of_ok (h : ((loadSettings s o).run t).1 = .ok settings) :
    scannedTree s o t = ((CommandLine.scan s o settings).run t).2 := by
  rw [scannedTree, h]

theorem runOptions_of_settings_error (hs : s.OnTree)
    (h : ((loadSettings s o).run t).1 = .error message) :
    (runOptions s o).run t = (.failure "" message, scannedTree s o t) := by
  rw [runOptions, (readOnly_loadSettings hs o).run_bind, h, scannedTree_of_error h]
  rfl

theorem runOptions_of_scan_error (hs : s.OnTree)
    (hsettings : ((loadSettings s o).run t).1 = .ok settings)
    (h : ((CommandLine.scan s o settings).run t).1 = .error message) :
    (runOptions s o).run t = (.failure "" message, scannedTree s o t) := by
  rw [runOptions, (readOnly_loadSettings hs o).run_bind, hsettings, scannedTree_of_ok hsettings]
  simp only
  rw [run_step_bind, h]
  rfl

theorem runOptions_of_readTo (hs : s.OnTree) (h : ReadTo s o t settings scan perf) :
    (runOptions s o).run t =
      (match o.plan with
      | some request => runPlan s o (outputPlace s settings) scan.report request
          (summaryText s o scan perf)
      | none => runReport s o (outputPlace s settings) scan.report
          (summaryText s o scan perf)).run (scannedTree s o t) := by
  have hscanned := h.scanned
  rw [runOptions, (readOnly_loadSettings hs o).run_bind, h.loaded, scannedTree_of_ok h.loaded]
  simp only
  rw [run_step_bind]
  generalize ((CommandLine.scan s o settings).run t).1 = scanned at hscanned ⊢
  subst hscanned
  rfl

theorem formatsOf?_eq_none {name : String} (h : name ∉ ["json", "html", "all"]) :
    formatsOf? name = none := by
  simp only [List.mem_cons, List.not_mem_nil, or_false, not_or] at h
  obtain ⟨hjson, hhtml, hall⟩ := h
  simp [formatsOf?, ReportFormat.ofName?, ReportFormat.all, ReportFormat.extension, hall,
    Ne.symm hjson, Ne.symm hhtml]

theorem exists_formatted (report : Report) {name : String} (h : name ∈ ["json", "html", "all"]) :
    ∃ files, Formatted report name files := by
  simp only [List.mem_cons, List.not_mem_nil, or_false] at h
  obtain rfl | rfl | rfl := h
  · exact ⟨_, .json⟩
  · exact ⟨_, .html⟩
  · exact ⟨_, .all⟩

theorem formats_of_formatted {report : Report} {name : String} (h : Formatted report name files) :
    ∃ formats : List ReportFormat, formatsOf? name = some formats ∧ formats.Nodup ∧
      reportOutputs report formats = files := by
  cases h with
  | json => exact ⟨[.json], by decide, by decide, rfl⟩
  | html => exact ⟨[.html], by decide, by decide, rfl⟩
  | all => exact ⟨[.json, .html], by decide, by decide, rfl⟩

theorem run_stops (hs : s.OnTree) (h : Stops s o t message) :
    ∃ shown, (runOptions s o).run t = (.failure shown message, scannedTree s o t) := by
  cases h with
  | settings h => exact ⟨"", runOptions_of_settings_error hs h⟩
  | scan hsettings h => exact ⟨"", runOptions_of_scan_error hs hsettings h⟩
  | @plan settings scan perf q e hread hplan h =>
    refine ⟨summaryText s o scan perf, ?_⟩
    rw [runOptions_of_readTo hs hread, hplan]
    simp only [runPlan, h]
    rfl
  | @format settings scan perf hread hplan hdry h =>
    refine ⟨summaryText s o scan perf, ?_⟩
    rw [runOptions_of_readTo hs hread, hplan]
    simp only [runReport, hdry, formatsOf?_eq_none h]
    rfl

theorem run_idle (hs : s.OnTree) (hread : ReadTo s o t settings scan perf)
    (h : Idle o scan.report) :
    ∃ shown, (runOptions s o).run t = (.success shown, scannedTree s o t) := by
  rw [runOptions_of_readTo hs hread]
  cases h with
  | @plan q outcome hplan houtcome hnone =>
    simp only [hplan, runPlan, houtcome]
    cases hready : outcome.plan? with
    | none => exact ⟨_, rfl⟩
    | some plan =>
      rw [hready] at hnone
      simp only [reduceCtorEq, false_or] at hnone
      simp only [hnone, if_true]
      exact ⟨_, rfl⟩
  | reports hplan hdry =>
    simp only [hplan, runReport, hdry, if_true]
    exact ⟨_, rfl⟩

inductive Ended (place : OutputPlace) (files : List Output) (before : FileTree) :
    Ending → FileTree → Prop where
  | saved (shown : String) (d : List String) (after : FileTree) : Accepts place files before →
      SavedIn d place files before after → Ended place files before (.success shown) after
  | refused (shown : String) (fault : DiskFault) (d : List String) (written : List Output)
      (after : FileTree) : ¬ Accepts place files before → written <+: files →
      SavedIn d place written before after →
      Ended place files before (.failure shown fault.message) after

namespace Ended

variable {place : OutputPlace} {ending : Ending} {after : FileTree}

theorem of_accepts (h : Ended place files t ending after) (haccepts : Accepts place files t) :
    (∃ shown, ending = .success shown) ∧ ∃ d, SavedIn d place files t after := by
  cases h with
  | saved shown d _ _ hsaved => exact ⟨⟨shown, rfl⟩, d, hsaved⟩
  | refused _ _ _ _ _ hrefused => exact absurd haccepts hrefused

theorem of_not_accepts (h : Ended place files t ending after) (hrefused : ¬ Accepts place files t) :
    (∃ shown fault, ending = .failure shown (DiskFault.message fault)) ∧
      ∃ d written, written <+: files ∧ SavedIn d place written t after := by
  cases h with
  | saved _ _ _ haccepts => exact absurd haccepts hrefused
  | refused shown fault d written _ _ hwritten hsaved =>
    exact ⟨⟨shown, fault, rfl⟩, d, written, hwritten, hsaved⟩

end Ended

theorem ended_of_attempt {α : Type} {place : OutputPlace}
    {writing : StateM FileTree (Except DiskFault α)}
    {next : Except DiskFault α → StateM FileTree Ending} {shown : String} {told : α → String}
    (h : Attempt place files t (writing.run t).2 (writing.run t).1)
    (herror : ∀ fault, next (.error fault) = pure (.failure shown fault.message))
    (hok : ∀ a, next (.ok a) = pure (.success (told a))) :
    Ended place files t ((writing >>= next).run t).1 ((writing >>= next).run t).2 := by
  rw [run_step_bind]
  cases hresult : (writing.run t).1 with
  | error fault =>
    rw [hresult] at h
    obtain _ | ⟨_, d, written, haccepts, hwritten, hsaved⟩ := h
    rw [herror]
    exact .refused shown fault d written _ haccepts hwritten hsaved
  | ok a =>
    rw [hresult] at h
    obtain ⟨_, d, haccepts, hsaved⟩ := h
    rw [hok]
    exact .saved (told a) d _ haccepts hsaved

theorem isName_planFile {place : OutputPlace} (hplace : place.IsSound) :
    Path.IsName (place.fileName "plan.json") :=
  hplace.name.withExtension (by decide) (by decide)

theorem run_wants (hs : s.Named) (hread : ReadTo s o t settings scan perf)
    (h : Wants o scan.report files) :
    Ended (outputPlace s settings) files (scannedTree s o t) ((runOptions s o).run t).1
      ((runOptions s o).run t).2 := by
  have hplace := isSound_outputPlace hs settings
  rw [runOptions_of_readTo hs.toOnTree hread]
  cases h with
  | @plan q plan hplan hdry hready =>
    have hattempt := attempt_writeFile (f := ⟨"plan.json", plan.toValue.pretty⟩) hplace
      (isName_planFile hplace) (scannedTree s o t)
    have hdisk : s.disk.writePlan (outputPlace s settings) plan =
        disk.writeFile (outputPlace s settings) "plan.json" plan.toValue.pretty := by
      rw [hs.disk, Disk.writePlan, writeFile_diskWith]
    simp only [hplan, runPlan, hready, PlanOutcome.plan?, hdry, hdisk, Bool.false_eq_true, if_false]
    exact ended_of_attempt hattempt (fun _ => rfl) fun _ => rfl
  | reports hplan hdry hformatted =>
    obtain ⟨formats, hformats, hnodup, rfl⟩ := formats_of_formatted hformatted
    have hattempt := attempt_writeReports hplace scan.report hnodup (scannedTree s o t)
    have hdisk : s.disk.writeReports (outputPlace s settings) scan.report formats =
        disk.writeReports (outputPlace s settings) scan.report formats := by
      rw [hs.disk, writeReports_diskWith]
    simp only [hplan, runReport, hdry, hformats, hdisk, Bool.false_eq_true, if_false]
    exact ended_of_attempt hattempt (fun _ => rfl) fun _ => rfl

theorem Wants.dryRun_eq {report : Report} (h : Wants o report files) : o.dryRun = false := by
  cases h with
  | plan _ hdry _ => exact hdry
  | reports _ hdry _ => exact hdry

theorem requested (hread : ReadTo s o t settings scan perf) : (∃ message, Stops s o t message) ∨
    Idle o scan.report ∨ ∃ files, Wants o scan.report files := by
  cases hplan : o.plan with
  | some q =>
    cases houtcome : scan.report.plan q.identity q.protocol q.source with
    | error e => exact .inl ⟨_, .plan hread hplan houtcome⟩
    | ok outcome =>
      cases hdry : o.dryRun with
      | true => exact .inr (.inl (.plan hplan houtcome (.inr hdry)))
      | false =>
        cases outcome with
        | ready plan => exact .inr (.inr ⟨_, .plan hplan hdry houtcome⟩)
        | alreadyConverged => exact .inr (.inl (.plan hplan houtcome (.inl rfl)))
        | missingCredential source => exact .inr (.inl (.plan hplan houtcome (.inl rfl)))
  | none =>
    cases hdry : o.dryRun with
    | true => exact .inr (.inl (.reports hplan hdry))
    | false =>
      by_cases hformat : o.format ∈ ["json", "html", "all"]
      · obtain ⟨files, hfiles⟩ := exists_formatted scan.report hformat
        exact .inr (.inr ⟨files, .reports hplan hdry hfiles⟩)
      · exact .inl ⟨_, .format hread hplan hdry hformat⟩

theorem stops_or_read (s : Surroundings (StateM FileTree)) (o : Options) (t : FileTree) :
    (∃ message, Stops s o t message) ∨ ∃ settings scan perf, ReadTo s o t settings scan perf ∧
      (Idle o scan.report ∨ ∃ files, Wants o scan.report files) := by
  cases hsettings : ((loadSettings s o).run t).1 with
  | error message => exact .inl ⟨message, .settings hsettings⟩
  | ok settings =>
    cases hscan : ((CommandLine.scan s o settings).run t).1 with
    | error message => exact .inl ⟨message, .scan hsettings hscan⟩
    | ok result =>
      obtain ⟨scan, perf⟩ := result
      have hread : ReadTo s o t settings scan perf := ⟨hsettings, hscan⟩
      rcases requested hread with hstops | hdone
      · exact .inl hstops
      · exact .inr ⟨settings, scan, perf, hread, hdone⟩

/-- What reading does to the files. It changes none but files beside panels, and none if panels are
read without a trace. On a disk as it is, logs and their indexes are what is made, and none is made
if and only if no log is made for a panel that is read. -/
structure ScanLeaves (s : Surroundings (StateM FileTree)) (o : Options) (t scanned : FileTree) :
    Prop where
  snapshot : o.input.isSome → scanned = t
  noSettings : ∀ message, ((loadSettings s o).run t).1 = .error message → scanned = t
  beside : ∀ settings, ((loadSettings s o).run t).1 = .ok settings →
    t.Touches scanned (t.BesidePanels settings.backends)
  traceless : ∀ settings, ((loadSettings s o).run t).1 = .ok settings →
    (∀ b ∈ settings.backends, ∀ path use, b.ReadsAt t path use →
      ((s.disk.readPanel path use).run t).2 = t) → scanned = t
  logs : s.disk = FileTree.disk → t.GainsLogs scanned
  unchanged : s.disk = FileTree.disk → o.input = none → ∀ settings,
    ((loadSettings s o).run t).1 = .ok settings →
    ((∀ q, scanned.file? q = t.file? q) ↔ ∀ b ∈ settings.backends, ∀ path use,
      b.ReadsAt t path use → ¬ t.MakesLog path use)

/-- What a run does to the files after all is read: nothing in a dry run, nothing when it fails for
want of settings, a snapshot, a plan or a format, and else the files that are wanted and no
others. -/
structure WritesResultsOnly (s : Surroundings (StateM FileTree)) (o : Options)
    (t scanned : FileTree) (ending : Ending) (after : FileTree) : Prop where
  dryRun : o.dryRun = true → after = scanned
  stopped : ∀ message, Stops s o t message →
    (∃ shown, ending = .failure shown message) ∧ after = scanned
  idle : ∀ settings scan perf, ReadTo s o t settings scan perf → Idle o scan.report →
    (∃ shown, ending = .success shown) ∧ after = scanned
  written : ∀ settings scan perf files, ReadTo s o t settings scan perf →
    Wants o scan.report files → Accepts (outputPlace s settings) files scanned →
    (∃ shown, ending = .success shown) ∧
      ∃ d, SavedIn d (outputPlace s settings) files scanned after
  refused : ∀ settings scan perf files, ReadTo s o t settings scan perf →
    Wants o scan.report files → ¬ Accepts (outputPlace s settings) files scanned →
    (∃ shown fault, ending = .failure shown (DiskFault.message fault)) ∧
      ∃ d written, written <+: files ∧ SavedIn d (outputPlace s settings) written scanned after
  complete : (∃ message, Stops s o t message) ∨ ∃ settings scan perf,
    ReadTo s o t settings scan perf ∧ (Idle o scan.report ∨ ∃ files, Wants o scan.report files)

theorem scanLeaves_scannedTree (hs : s.Named) (o : Options) (t : FileTree) :
    ScanLeaves s o t (scannedTree s o t) := by
  have hrun : ∀ settings, ((loadSettings s o).run t).1 = .ok settings → scannedTree s o t =
      if o.input.isSome then t else
        ((settings.backends.mapM (Scan.sourceOf (diskWith s.disk.readPanel) s.clock)).run t).2 := by
    intro settings hsettings
    rw [scannedTree_of_ok hsettings, scan_run hs.toOnTree]
  refine ⟨?_, fun message h => scannedTree_of_error h, ?_, ?_, ?_, ?_⟩
  · intro hinput
    cases hsettings : ((loadSettings s o).run t).1 with
    | error message => exact scannedTree_of_error hsettings
    | ok settings => rw [hrun settings hsettings, if_pos hinput]
  · intro settings hsettings
    rw [hrun settings hsettings]
    split
    · exact .refl t
    · exact touches_mapM_sourceOf hs.clock hs.panels settings.backends t
  · intro settings hsettings hpanels
    rw [hrun settings hsettings, mapM_sourceOf_eq_self hs.clock hpanels, ite_self]
  · intro hdisk
    cases hsettings : ((loadSettings s o).run t).1 with
    | error message =>
      rw [scannedTree_of_error hsettings]
      exact .refl t
    | ok settings =>
      rw [hrun settings hsettings, hdisk]
      split
      · exact .refl t
      · exact gainsLogs_mapM_sourceOf hs.clock settings.backends t
  · intro hdisk hinput settings hsettings
    rw [hrun settings hsettings, hdisk, hinput]
    exact mapM_sourceOf_unchanged_iff hs.clock settings.backends t

theorem runOptions_writesResultsOnly (hs : s.Named) (o : Options) (t : FileTree) :
    WritesResultsOnly s o t (scannedTree s o t) ((runOptions s o).run t).1
      ((runOptions s o).run t).2 := by
  have hstops : ∀ message, Stops s o t message →
      (∃ shown, ((runOptions s o).run t).1 = .failure shown message) ∧
        ((runOptions s o).run t).2 = scannedTree s o t := by
    intro message h
    obtain ⟨shown, hrun⟩ := run_stops hs.toOnTree h
    rw [hrun]
    exact ⟨⟨shown, rfl⟩, rfl⟩
  have hidle : ∀ settings scan perf, ReadTo s o t settings scan perf → Idle o scan.report →
      (∃ shown, ((runOptions s o).run t).1 = .success shown) ∧
        ((runOptions s o).run t).2 = scannedTree s o t := by
    intro settings scan perf hread h
    obtain ⟨shown, hrun⟩ := run_idle hs.toOnTree hread h
    rw [hrun]
    exact ⟨⟨shown, rfl⟩, rfl⟩
  have hdryRun : o.dryRun = true → ((runOptions s o).run t).2 = scannedTree s o t := by
    intro hdry
    -- a dry run wants no files, so one of the two cases that change nothing is there
    rcases stops_or_read s o t with ⟨message, h⟩ | ⟨settings, scan, perf, hread, h | ⟨files, h⟩⟩
    · exact (hstops message h).2
    · exact (hidle settings scan perf hread h).2
    · rw [h.dryRun_eq] at hdry
      cases hdry
  refine ⟨hdryRun, hstops, hidle, ?_, ?_, stops_or_read s o t⟩
  · intro settings scan perf files hread hwants
    exact (run_wants hs hread hwants).of_accepts
  · intro settings scan perf files hread hwants
    exact (run_wants hs hread hwants).of_not_accepts

theorem hexOfBytes_plain (bytes : List UInt8) : '/' ∉ (hexOfBytes bytes).toList := by
  have hdigit : ∀ n < 16, Nat.digitChar n ≠ '/' := by decide
  rw [hexOfBytes, String.toList_ofList, List.mem_flatMap]
  rintro ⟨b, -, hb⟩
  have hhigh : b.toNat / 16 < 16 := Nat.div_lt_of_lt_mul b.toNat_lt
  have hlow : b.toNat % 16 < 16 := Nat.mod_lt _ (by decide)
  rcases List.mem_cons.mp hb with hb | hb
  · exact hdigit _ hhigh hb.symm
  · exact hdigit _ hlow (List.mem_singleton.mp hb).symm

theorem runNameOfBytes_plain (bytes : List UInt8) : '/' ∉ (runNameOfBytes bytes).toList := by
  simp [runNameOfBytes, hexOfBytes_plain]

/-- The names of runs have dashes in them, which no step that is no name has. -/
theorem isName_append_runNameOfBytes {front : String} (hfront : '/' ∉ front.toList)
    (bytes : List UInt8) : Path.IsName (front ++ runNameOfBytes bytes) := by
  have hdash : '-' ∈ (front ++ runNameOfBytes bytes).toList := by
    simp [runNameOfBytes]
  have hne : ∀ s : String, '-' ∉ s.toList → front ++ runNameOfBytes bytes ≠ s := by
    rintro s hs rfl
    exact hs hdash
  refine ⟨?_, hne "" (by decide), hne "." (by decide), hne ".." (by decide)⟩
  rw [String.toList_append, List.mem_append, not_or]
  exact ⟨hfront, runNameOfBytes_plain bytes⟩

def midnight : Surroundings (StateM FileTree) where
  disk := disk
  clock := pure 0
  environment := []
  colouring := .off
  stamp := "20240101_000000_" ++ runNameOfBytes []
  runName := "" ++ runNameOfBytes []

theorem named_midnight : midnight.Named where
  disk := rfl
  clock := .pure 0
  panels := staysBeside_disk
  stamp := isName_append_runNameOfBytes (by decide) []
  runName := isName_append_runNameOfBytes (by decide) []

def snapshotTree : FileTree :=
  ⟨["w"], [(["w"], .directory), (["w", "s.json"], .file (.bytes [0x5b, 0x5d])),
    (["w", "reports"], .directory)]⟩

def inputOptions : Options := ⟨none, some "s.json", "all", false, false, none⟩

theorem disk_midnight : midnight.disk = disk := rfl

theorem locate_name {name : String} (hplace : t.node? t.workingDirectory = some .directory)
    (hname : Path.Fits name) (hpath : checkPath name = .ok ()) :
    t.locate name = .ok (t.workingDirectory ++ [name]) := by
  have hstart : t.start name = t.workingDirectory := if_neg hname.not_isAbsolute
  have hsteps : Path.steps name = [] ++ [name] := hname.steps_eq
  exact locate_eq_ok hsteps hpath (congrArg Except.ok hstart) hname hplace

theorem find_localConfig (hplace : t.node? t.workingDirectory = some .directory) :
    t.find localConfig = match t.node? (t.workingDirectory ++ [localConfig]) with
      | none => .error .notFound
      | some node => .ok node := by
  have hname : Path.Fits localConfig := ⟨⟨by decide, by decide, by decide, by decide⟩, by decide⟩
  rw [find, locate_name hplace hname (checkPath_eq_ok.mpr (by decide))]
  rfl

theorem loadSettings_snapshotTree :
    ((loadSettings midnight inputOptions).run snapshotTree).1 = .ok .default :=
  loadSettings_of_missing named_midnight.toOnTree rfl rfl (find_localConfig (by decide)) rfl

theorem readTo_snapshotTree :
    ReadTo midnight inputOptions snapshotTree .default (.ofSnapshot ⟨[], []⟩) .empty := by
  have hlocate : snapshotTree.locate "s.json" = .ok ["w", "s.json"] :=
    locate_name (by decide) ⟨⟨by decide, by decide, by decide, by decide⟩, by decide⟩
      (checkPath_eq_ok.mpr (by decide))
  have hbytes : snapshotTree.readBytes "s.json" = .ok [0x5b, 0x5d] := by
    rw [readBytes, FileTree.read, find, hlocate]
    rfl
  have hread : (disk.read "s.json").run snapshotTree =
      (snapshotTree.readBytes "s.json", snapshotTree) := rfl
  have htext : decodeText [0x5b, 0x5d] = some "[]" := by decide +kernel
  have hentries : Entry.readAll "[]" = .ok [] := rfl
  refine ⟨loadSettings_snapshotTree, ?_⟩
  rw [scan, inputOptions]
  simp only
  rw [(readOnly_scanOfFile named_midnight.toOnTree _).run_bind, scanOfFile, disk_midnight,
    run_step_bind, hread, hbytes]
  simp only [htext, hentries]
  rfl

theorem fits_stamp : Path.Fits midnight.stamp :=
  ⟨named_midnight.stamp, by decide +kernel⟩

theorem fits_reportFile (format : ReportFormat) :
    Path.Fits ((outputPlace midnight .default).fileName format.extension) := by
  refine ⟨isName_reportFile (isSound_outputPlace named_midnight .default) format, ?_⟩
  cases format <;> decide +kernel

theorem room_snapshotTree (report : Report) (formats : List ReportFormat) :
    Room (outputPlace midnight .default) (reportOutputs report formats) snapshotTree ["reports"]
      midnight.stamp ["w", "reports"] := by
  have hbase : Path.Fits "reports" :=
    ⟨⟨by decide, by decide, by decide, by decide⟩, by decide⟩
  have hdirectory : (outputPlace midnight .default).directory =
      "reports" ++ "/" ++ midnight.stamp :=
    fits_stamp.join_eq ⟨hbase.nonempty, hbase.not_endsWith_slash ""⟩
  have hstart : snapshotTree.start (outputPlace midnight .default).directory = ["w"] := by
    rw [start, hdirectory, String.append_assoc, Path.isAbsolute_append hbase.nonempty]
    exact if_neg hbase.not_isAbsolute
  have hstep : snapshotTree.step ["w"] "reports" = .ok ["w", "reports"] :=
    step_fits hbase (by decide)
  have hplaces : ∀ format : ReportFormat, snapshotTree.node? (["w", "reports"] ++ [midnight.stamp]
      ++ [(outputPlace midnight .default).fileName format.extension]) ≠ some .directory := by
    intro format
    cases format <;> decide +kernel
  refine ⟨⟨?_, ?_, ?_, by decide, fits_stamp⟩, .inl (by decide), ?_, ?_, ?_⟩
  · rw [hdirectory, Path.steps_append, hbase.steps_eq, fits_stamp.steps_eq]
  · rw [hdirectory]
    exact checkPath_eq_ok.mpr (by decide +kernel)
  · rw [hstart, List.foldlM_cons, hstep]
    rfl
  · intro f hf
    obtain ⟨format, -, rfl⟩ := List.mem_map.mp hf
    exact fits_reportFile format
  · intro f hf
    obtain ⟨format, -, rfl⟩ := List.mem_map.mp hf
    rw [OutputPlace.path, ← OutputPlace.fileName, (fits_reportFile format).join_eq
      (isSound_outputPlace named_midnight .default).directory, hdirectory]
    cases format <;> exact checkPath_eq_ok.mpr (by decide +kernel)
  · intro f hf
    obtain ⟨format, -, rfl⟩ := List.mem_map.mp hf
    exact hplaces format

theorem asks_input : Asks ["--input", "s.json"] inputOptions :=
  ofArguments_eq_ok_iff.mp (by decide +kernel)

def loggingPanel : List UInt8 :=
  let zeros (n : Nat) : List UInt8 := List.replicate n 0
  Panel.File.firstBytes ++ [2, 0, 2, 2, 0, 64, 32, 32, 0, 0, 0, 2, 0, 0, 0, 2] ++ zeros 11
    ++ [1, 0, 0, 0, 4] ++ zeros 11 ++ [1] ++ zeros 35 ++ [2, 0, 46, 99, 1]
    ++ [13, 0, 0, 0, 1, 1, 136, 0, 1, 136] ++ zeros 282 ++ [118, 1, 7, 23, 29, 29, 1, 129, 63]
    ++ "tableinboundsinbounds".toUTF8.toList ++ [2]
    ++ "CREATE TABLE inbounds (id INTEGER PRIMARY KEY, remark TEXT, ".toUTF8.toList
    ++ "protocol TEXT, settings TEXT)".toUTF8.toList
    ++ [13, 0, 0, 0, 1, 1, 217, 0, 1, 217] ++ zeros 463 ++ [37, 1, 5, 0, 15, 23, 65]
    ++ "rvless\x7b\"clients\":[\x7b\"id\":\"u%s\"\x7d]\x7d".toUTF8.toList

def panelSettings : String :=
  "[[backends]]\nid = \"a\"\nkind = \"sqlite\"\npath = \"p.db\"\n"

def panelTree : FileTree :=
  ⟨["w"], [(["w"], .directory),
    (["w", "clientdiff.toml"], .file (.bytes panelSettings.toUTF8.toList)),
    (["w", "p.db"], .file (.bytes loggingPanel))]⟩

def dryOptions : Options := ⟨none, none, "all", true, false, none⟩

def localPanel : Backend := ⟨"a", none, .sqlite, "p.db"⟩

theorem load_panelSettings :
    Settings.load localConfig (some panelSettings.toUTF8.toList) [] =
      .ok ⟨[localPanel], "reports"⟩ := by
  have hsome : (Settings.load localConfig (some panelSettings.toUTF8.toList) []).toOption =
      some ⟨[localPanel], "reports"⟩ := by decide +kernel
  cases hload : Settings.load localConfig (some panelSettings.toUTF8.toList) [] with
  | error e =>
    rw [hload] at hsome
    cases hsome
  | ok settings =>
    rw [hload] at hsome
    cases hsome
    rfl

theorem loadSettings_panelTree :
    ((loadSettings midnight dryOptions).run panelTree).1 = .ok ⟨[localPanel], "reports"⟩ :=
  loadSettings_of_file named_midnight.toOnTree rfl (find_localConfig (by decide))
    load_panelSettings (List.cons_ne_nil _ _)

theorem locate_panelTree (name : String) (hname : Path.Fits name)
    (hpath : checkPath ("/w/" ++ name) = .ok ()) :
    panelTree.locate ("/w/" ++ name) = .ok ["w", name] := by
  have hsteps : Path.steps ("/w/" ++ name) = ["", "w"] ++ [name] := by
    have hsplit : "/w/" ++ name = "/w" ++ "/" ++ name := rfl
    have hfront : Path.steps "/w" = ["", "w"] := by decide
    rw [hsplit, Path.steps_append, hname.steps_eq, hfront]
  have habsolute : Path.isAbsolute "/w/" = true := by simp [Path.isAbsolute]
  have hstart : panelTree.start ("/w/" ++ name) = [] := by
    rw [start, Path.isAbsolute_append (by decide), habsolute, if_pos rfl]
  have hbefore : (["", "w"] : List String).foldlM panelTree.step
      (panelTree.start ("/w/" ++ name)) = .ok ["w"] := by
    rw [hstart]
    rfl
  exact locate_eq_ok hsteps hpath hbefore hname (by decide)

theorem locate_panel : panelTree.locate "/w/p.db" = .ok ["w", "p.db"] :=
  locate_panelTree "p.db" ⟨⟨by decide, by decide, by decide, by decide⟩, by decide⟩
    (checkPath_eq_ok.mpr (by decide))

theorem readsAt_panelTree : localPanel.ReadsAt panelTree "/w/p.db" .opened := by
  have haddress : Panel.Address.ofText localPanel.path = .ok (.file "p.db" .opened) := by
    simp [localPanel, Panel.Address.ofText, Panel.Address.ofPath]
  have hname : Path.IsName "p.db" := ⟨by decide, by decide, by decide, by decide⟩
  have hstart : panelTree.startOf "p.db" = ["w"] := by
    rw [startOf, if_neg hname.not_isAbsolute]
    decide
  have hfind : panelTree.find (Path.fromRoot ["w", "p.db"]) =
      .ok (.file (.bytes loggingPanel)) := by
    have hroot : Path.fromRoot ["w", "p.db"] = "/w/p.db" := rfl
    rw [hroot, find, locate_panel]
    rfl
  exact ⟨rfl, "p.db", haddress, leadsTo_name hname (by rw [hstart]; rfl) hfind⟩

theorem scannedTree_panelTree : scannedTree midnight dryOptions panelTree =
    (panelTree.readPanel "/w/p.db" .opened).2 := by
  rw [scannedTree_of_ok loadSettings_panelTree, scan_run named_midnight.toOnTree, dryOptions]
  simp only [Option.isSome_none, Bool.false_eq_true, if_false]
  rw [mapM_sourceOf_singleton named_midnight.clock, fetch_run_of_readsAt readsAt_panelTree]
  rfl

theorem asks_dryRun : Asks ["--dry-run"] dryOptions :=
  ofArguments_eq_ok_iff.mp (by decide +kernel)

end CommandLine

end FleetDrift
