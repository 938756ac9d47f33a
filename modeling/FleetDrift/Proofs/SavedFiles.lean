import FleetDrift.Proofs.RunPaths

/-! # Files that a run saves
The files of a run are written one after another into its directory. If no operation is refused, all
of them are there in the end; in any case nothing but them has changed. -/
namespace FleetDrift

structure Output where
  extension : String
  content : String
  deriving DecidableEq, Repr

namespace OutputPlace

def fileName (place : OutputPlace) (extension : String) : String := place.name ++ "." ++ extension

structure IsSound (place : OutputPlace) : Prop where
  directory : Path.IsDirectoryPath place.directory
  name : Path.IsName place.name

end OutputPlace

open FileTree

variable {place : OutputPlace} {f : Output} {files rest : List Output}
  {t before middle after : FileTree} {d : List String}

/-- The files are in the directory that the path of the run leads to, and all else is as before. -/
structure SavedIn (d : List String) (place : OutputPlace) (files : List Output)
    (before after : FileTree) : Prop where
  directory : files ≠ [] → after.locate place.directory = .ok d
  gains : before.Gains after (files.map fun f => d ++ [place.fileName f.extension])
  contents : ∀ f ∈ files, after.file? (d ++ [place.fileName f.extension]) =
    some (.bytes f.content.toUTF8.toList)

namespace SavedIn

theorem nothing (h : before.Gains after []) (d : List String) : SavedIn d place [] before after :=
  ⟨fun hne => absurd rfl hne, h, fun _ hf => absurd hf List.not_mem_nil⟩

/-- The path of the run still leads to where the first file is. -/
theorem sameDirectory {d' : List String} (hplace : middle.locate place.directory = .ok d)
    (h : SavedIn d' place files middle after) : SavedIn d place files middle after := by
  cases files with
  | nil => exact nothing h.gains d
  | cons f files =>
    have hd := (h.directory (List.cons_ne_nil f files)).symm.trans (h.gains.locate hplace)
    rwa [Except.ok.inj hd] at h

theorem cons (h : SavedIn d place [f] before middle) (hrest : SavedIn d place rest middle after)
    (hnew : f.extension ∉ rest.map (·.extension)) :
    SavedIn d place (f :: rest) before after := by
  refine ⟨fun _ => hrest.gains.locate (h.directory (List.cons_ne_nil f [])), ?_, ?_⟩
  · exact h.gains.trans hrest.gains
  · rw [List.forall_mem_cons]
    refine ⟨?_, hrest.contents⟩
    -- no later file has this name, so none is written over it
    rw [hrest.gains.files]
    · exact h.contents f List.mem_cons_self
    · intro hmem
      obtain ⟨g, hg, heq⟩ := List.mem_map.mp hmem
      have hname := List.append_cancel_left heq
      rw [List.singleton_inj, OutputPlace.fileName, OutputPlace.fileName,
        String.append_right_inj] at hname
      exact hnew (List.mem_map.mpr ⟨g, hg, hname⟩)

end SavedIn

theorem savedIn_write (hplace : place.IsSound) (hf : Path.IsName (place.fileName f.extension))
    (h : t.write (place.path f.extension) f.content = .ok after) :
    ∃ d, t.locate place.directory = .ok d ∧ SavedIn d place [f] t after := by
  obtain ⟨p, hp, hfree, rfl⟩ := write_eq_ok h
  rw [OutputPlace.path, ← OutputPlace.fileName, hf.join_eq hplace.directory] at hp
  obtain ⟨d, hd, rfl⟩ := locate_file hplace.directory hf hp
  have hgains := gains_put_file (.bytes f.content.toUTF8.toList) hfree
  refine ⟨d, hd, fun _ => hgains.locate hd, hgains, ?_⟩
  intro g hg
  rw [List.mem_singleton.mp hg, file?, node?_put_self (by simp)]

theorem savedIn_makeDirectories (h : SavedIn d place [f] middle after)
    (hmade : (disk.makeDirectories place.directory).run t = (.ok (), middle)) :
    SavedIn d place [f] t after := by
  have hgains := onlyExtends_makeDirectories place.directory t
  rw [hmade] at hgains
  exact ⟨h.directory, hgains.trans h.gains, h.contents⟩

/-- None of the operations that write the files one after another is refused. -/
def Accepts (place : OutputPlace) : List Output → FileTree → Prop
  | [], _ => True
  | f :: rest, t => ∃ made written,
      (disk.makeDirectories place.directory).run t = (.ok (), made) ∧
      made.write (place.path f.extension) f.content = .ok written ∧ Accepts place rest written

theorem writeFile_run (place : OutputPlace) (extension content : String) (t : FileTree) :
    (disk.writeFile place extension content).run t =
      match (disk.makeDirectories place.directory).run t with
      | (.error fault, made) => (.error fault, made)
      | (.ok (), made) =>
        match made.write (place.path extension) content with
        | .error fault => (.error fault, made)
        | .ok written => (.ok (place.path extension), written) := by
  rw [Disk.writeFile, run_step_bind]
  rcases (disk.makeDirectories place.directory).run t with ⟨result, made⟩
  cases result with
  | error fault => rfl
  | ok u =>
    have hwrite : (disk.write (place.path extension) content).run made =
      change (·.write (place.path extension) content) made := rfl
    simp only [run_step_bind, hwrite, change]
    cases made.write (place.path extension) content <;> rfl

theorem writeFile_ok {path : String}
    (h : (disk.writeFile place f.extension f.content).run t = (.ok path, after)) :
    path = place.path f.extension ∧ ∃ made,
      (disk.makeDirectories place.directory).run t = (.ok (), made) ∧
      made.write (place.path f.extension) f.content = .ok after := by
  rw [writeFile_run] at h
  split at h
  · cases h
  · next made hmade =>
    split at h
    · cases h
    · next written hwritten =>
      cases h
      exact ⟨rfl, made, hmade, hwritten⟩

theorem writeFile_error {fault : DiskFault}
    (h : (disk.writeFile place f.extension f.content).run t = (.error fault, after)) :
    t.Gains after [] ∧ ∀ rest, ¬ Accepts place (f :: rest) t := by
  have hgains := onlyExtends_makeDirectories place.directory t
  rw [writeFile_run] at h
  split at h
  · next refused made hmade =>
    cases h
    rw [hmade] at hgains
    refine ⟨hgains, ?_⟩
    rintro rest ⟨made', written, hmade', -⟩
    rw [hmade] at hmade'
    cases hmade'
  · next made hmade =>
    rw [hmade] at hgains
    split at h
    · next hrefused =>
      cases h
      refine ⟨hgains, ?_⟩
      rintro rest ⟨made', written, hmade', hwritten, -⟩
      rw [hmade] at hmade'
      cases hmade'
      rw [hrefused] at hwritten
      cases hwritten
    · cases h

theorem accepts_cons_iff {path : String}
    (h : (disk.writeFile place f.extension f.content).run t = (.ok path, middle)) :
    Accepts place (f :: rest) t ↔ Accepts place rest middle := by
  obtain ⟨-, made, hmade, hwritten⟩ := writeFile_ok h
  constructor
  · rintro ⟨made', written, hmade', hwritten', haccepts⟩
    rw [hmade] at hmade'
    cases hmade'
    rw [hwritten] at hwritten'
    cases hwritten'
    exact haccepts
  · intro haccepts
    exact ⟨made, middle, hmade, hwritten, haccepts⟩

theorem makeWithin_diskWith {panels : String → Panel.LogUse → PanelReading} (path : String)
    (outers : List String) :
    (diskWith panels).makeWithin path outers = disk.makeWithin path outers := by
  induction outers generalizing path with
  | nil => rfl
  | cons outer outers ih =>
    rw [Disk.makeWithin, ih]
    rfl

theorem writeFile_diskWith {panels : String → Panel.LogUse → PanelReading}
    (place : OutputPlace) (extension content : String) :
    (diskWith panels).writeFile place extension content =
      disk.writeFile place extension content := by
  have hdirectories : (diskWith panels).makeDirectories place.directory =
      disk.makeDirectories place.directory := by
    rw [Disk.makeDirectories, makeWithin_diskWith]
    rfl
  rw [Disk.writeFile, hdirectories]
  rfl

inductive Attempt {α : Type} (place : OutputPlace) (files : List Output)
    (before after : FileTree) : Except DiskFault α → Prop where
  | saved (a : α) (d : List String) : Accepts place files before →
      SavedIn d place files before after → Attempt place files before after (.ok a)
  | refused (fault : DiskFault) (d : List String) (written : List Output) :
      ¬ Accepts place files before → written <+: files →
      SavedIn d place written before after → Attempt place files before after (.error fault)

theorem Attempt.cons {α β : Type} {result : Except DiskFault α} {path : String} (g : α → β)
    (hplace : place.IsSound) (hf : Path.IsName (place.fileName f.extension))
    (hnew : f.extension ∉ rest.map (·.extension))
    (hfirst : (disk.writeFile place f.extension f.content).run t = (.ok path, middle))
    (hrest : Attempt place rest middle after result) :
    Attempt place (f :: rest) t after (result.map g) := by
  obtain ⟨-, made, hmade, hwritten⟩ := writeFile_ok hfirst
  obtain ⟨d, hd, hsaved⟩ := savedIn_write hplace hf hwritten
  have hthere : middle.locate place.directory = .ok d :=
    hsaved.directory (List.cons_ne_nil f [])
  have hone := savedIn_makeDirectories hsaved hmade
  cases hrest with
  | saved a d' haccepts hsaved' =>
    exact .saved (g a) d ((accepts_cons_iff hfirst).mpr haccepts)
      (hone.cons (hsaved'.sameDirectory hthere) hnew)
  | refused fault d' written haccepts hwritten hsaved' =>
    refine .refused fault d (f :: written) ?_ ?_ (hone.cons (hsaved'.sameDirectory hthere) ?_)
    · rwa [accepts_cons_iff hfirst]
    · exact (List.prefix_cons_inj f).mpr hwritten
    · exact fun hmem => hnew ((hwritten.sublist.map _).subset hmem)

theorem Attempt.refusedFirst {α : Type} {fault : DiskFault}
    (h : (disk.writeFile place f.extension f.content).run t = (.error fault, after)) :
    Attempt (α := α) place (f :: rest) t after (.error fault) := by
  obtain ⟨hgains, hrefused⟩ := writeFile_error h
  exact .refused fault [] [] (hrefused rest) List.nil_prefix (.nothing hgains [])

theorem attempt_writeFile (hplace : place.IsSound)
    (hf : Path.IsName (place.fileName f.extension)) (t : FileTree) :
    Attempt place [f] t ((disk.writeFile place f.extension f.content).run t).2
      ((disk.writeFile place f.extension f.content).run t).1 := by
  rcases hrun : (disk.writeFile place f.extension f.content).run t with ⟨result, after⟩
  cases result with
  | error fault => exact .refusedFirst hrun
  | ok path =>
    have hrest : Attempt place [] after after (.ok ()) :=
      .saved () [] trivial (.nothing (Gains.refl after) [])
    exact hrest.cons (fun _ => path) hplace hf List.not_mem_nil hrun

def reportOutputs (r : Report) (formats : List ReportFormat) : List Output :=
  formats.map fun format => ⟨format.extension, format.content r⟩

theorem extension_injective : Function.Injective ReportFormat.extension := by
  intro a b h
  cases a <;> cases b <;> first | rfl | exact absurd h (by decide)

theorem isName_reportFile (hplace : place.IsSound) (format : ReportFormat) :
    Path.IsName (place.fileName format.extension) := by
  cases format <;> exact hplace.name.withExtension (by decide) (by decide)

theorem writeReports_cons_run (r : Report) (format : ReportFormat) (formats : List ReportFormat)
    (t : FileTree) :
    (disk.writeReports place r (format :: formats)).run t =
      match (disk.writeFile place format.extension (format.content r)).run t with
      | (.error fault, middle) => (.error fault, middle)
      | (.ok path, middle) =>
        (((disk.writeReports place r formats).run middle).1.map (path :: ·),
          ((disk.writeReports place r formats).run middle).2) := by
  rw [Disk.writeReports, Disk.writeReport, run_step_bind]
  rcases (disk.writeFile place format.extension (format.content r)).run t with ⟨result, middle⟩
  cases result with
  | error fault => rfl
  | ok path =>
    simp only [run_step_bind]
    cases ((disk.writeReports place r formats).run middle).1 <;> rfl

theorem writeReports_diskWith {panels : String → Panel.LogUse → PanelReading}
    (place : OutputPlace) (r : Report) (formats : List ReportFormat) :
    (diskWith panels).writeReports place r formats = disk.writeReports place r formats := by
  induction formats with
  | nil => rfl
  | cons format formats ih =>
    rw [Disk.writeReports, Disk.writeReport, writeFile_diskWith, ih]
    rfl

theorem attempt_writeReports (hplace : place.IsSound) (r : Report) {formats : List ReportFormat}
    (hformats : formats.Nodup) (t : FileTree) :
    Attempt place (reportOutputs r formats) t ((disk.writeReports place r formats).run t).2
      ((disk.writeReports place r formats).run t).1 := by
  -- a refusal ends the attempt, so only an accepted first file leads to the others
  induction formats generalizing t with
  | nil => exact .saved [] [] trivial (.nothing (Gains.refl t) [])
  | cons format formats ih =>
    obtain ⟨hnew, hformats⟩ := List.nodup_cons.mp hformats
    have hextension : format.extension ∉ (reportOutputs r formats).map (·.extension) := by
      rw [reportOutputs, List.map_map]
      intro hmem
      obtain ⟨other, hother, hsame⟩ := List.mem_map.mp hmem
      exact hnew (extension_injective hsame ▸ hother)
    rw [writeReports_cons_run]
    rcases hrun : (disk.writeFile place format.extension (format.content r)).run t with
      ⟨result, middle⟩
    cases result with
    | error fault => exact .refusedFirst hrun
    | ok path =>
      exact .cons (path :: ·) hplace (isName_reportFile hplace format) hextension hrun
        (ih hformats middle)

end FleetDrift
