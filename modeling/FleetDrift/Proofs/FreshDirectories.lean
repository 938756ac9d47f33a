import FleetDrift.Proofs.SavedFiles

/-! # Room for the files of a run
Nothing refuses the files of a run when the output directory is there and has nothing with the name
of the run's own directory, as long as names and paths are not too long. -/
namespace FleetDrift

open FileTree

theorem lastStep_eq {path name : String} {before : List String}
    (hsteps : Path.steps path = before ++ [name]) (hname : name ≠ "") :
    lastStep path = (before, name) := by
  have hall : ((Path.steps path).reverse.dropWhile (· = "")).reverse = before ++ [name] := by
    rw [hsteps, List.reverse_append, List.reverse_singleton, List.singleton_append,
      List.dropWhile_cons_of_neg (by simp [hname]), List.reverse_cons, List.reverse_reverse]
  rw [lastStep, hall, List.dropLast_concat, List.getLastD_concat]

structure Path.Fits (name : String) : Prop extends Path.IsName name where
  short : name.utf8ByteSize ≤ maxName

namespace FileTree

variable {t : FileTree} {path name : String} {before place q : List String}

theorem step_fits (hname : Path.Fits name) (hplace : t.node? place = some .directory) :
    t.step place name = .ok (place ++ [name]) := by
  rw [step, hplace]
  simp [hname.not_staysInPlace, hname.notAbove, Nat.not_lt.mpr hname.short]

section LastStep

variable (hsteps : Path.steps path = before ++ [name]) (hpath : checkPath path = .ok ())
  (hbefore : before.foldlM t.step (t.start path) = .ok place) (hname : Path.Fits name)
  (hplace : t.node? place = some .directory)

include hsteps hpath hbefore hname hplace

theorem locate_eq_ok : t.locate path = .ok (place ++ [name]) := by
  refine Json.bind_eq_ok.mpr ⟨(), hpath, ?_⟩
  rw [hsteps, List.foldlM_append]
  refine Json.bind_eq_ok.mpr ⟨place, hbefore, ?_⟩
  exact Json.bind_eq_ok.mpr ⟨_, step_fits hname hplace, rfl⟩

theorem makeDirectory_eq : t.makeDirectory path =
    if (t.node? (place ++ [name])).isSome then .error .alreadyExists
    else .ok (t.put (place ++ [name]) .directory) := by
  rw [makeDirectory, hpath, lastStep_eq hsteps hname.nonempty]
  simp only [bind, Except.bind, hbefore, step_fits hname hplace, hname.not_staysInPlace,
    hname.notAbove, decide_false, Bool.false_or]

end LastStep

end FileTree

/-- The directory of a run: an output directory, and in it a name of the run's own. -/
structure RunDirectory (place : OutputPlace) (t : FileTree) (before : List String)
    (stamp : String) (outer : List String) : Prop where
  steps : Path.steps place.directory = before ++ [stamp]
  checked : checkPath place.directory = .ok ()
  reached : before.foldlM t.step (t.start place.directory) = .ok outer
  outerThere : t.node? outer = some .directory
  fits : Path.Fits stamp

namespace RunDirectory

variable {place : OutputPlace} {t after : FileTree} {before outer : List String} {stamp : String}
  {places : List (List String)}

theorem ne_empty (h : RunDirectory place t before stamp outer) : place.directory ≠ "" :=
  (checkPath_eq_ok.mp h.checked).2.1

theorem gains (h : RunDirectory place t before stamp outer) (hgains : t.Gains after places) :
    RunDirectory place after before stamp outer where
  steps := h.steps
  checked := h.checked
  reached := by
    rw [hgains.start]
    exact hgains.steps h.reached
  outerThere := hgains.directories _ h.outerThere
  fits := h.fits

theorem makeDirectory_run (h : RunDirectory place t before stamp outer) :
    (disk.makeDirectory place.directory).run t =
      if (t.node? (outer ++ [stamp])).isSome then (.error .alreadyExists, t)
      else (.ok (), t.put (outer ++ [stamp]) .directory) := by
  have hrun : (disk.makeDirectory place.directory).run t =
      change (·.makeDirectory place.directory) t := rfl
  rw [hrun, change, makeDirectory_eq h.steps h.checked h.reached h.fits h.outerThere]
  cases (t.node? (outer ++ [stamp])).isSome <;> rfl

theorem makeDirectories_run (h : RunDirectory place t before stamp outer) :
    (disk.makeDirectories place.directory).run t =
      (do disk.settle place.directory (← disk.makeDirectory place.directory)).run t := by
  rw [Disk.makeDirectories, if_neg h.ne_empty]
  cases Path.parents place.directory with
  | nil => rfl
  | cons parent parents =>
    rw [Disk.makeWithin, run_step_bind, run_step_bind, h.makeDirectory_run]
    cases (t.node? (outer ++ [stamp])).isSome <;> rfl

theorem makeDirectories_fresh (h : RunDirectory place t before stamp outer)
    (hfree : t.node? (outer ++ [stamp]) = none) :
    (disk.makeDirectories place.directory).run t =
      (.ok (), t.put (outer ++ [stamp]) .directory) := by
  rw [h.makeDirectories_run, run_step_bind, h.makeDirectory_run, hfree]
  rfl

theorem makeDirectories_there (h : RunDirectory place t before stamp outer)
    (hthere : t.node? (outer ++ [stamp]) = some .directory) :
    (disk.makeDirectories place.directory).run t = (.ok (), t) := by
  have hfind : t.find place.directory = .ok .directory := by
    have hlocate := locate_eq_ok h.steps h.checked h.reached h.fits h.outerThere
    rw [find, hlocate]
    simp only [bind, Except.bind, hthere]
  have hkind : (disk.isKind .directory place.directory).run t = (true, t) := by
    have hrun : (disk.kindOf place.directory).run t =
        ((t.find place.directory).map FileNode.kind, t) := rfl
    rw [Disk.isKind, run_step_bind, hrun, hfind]
    rfl
  -- the directory cannot be made again, which is settled by finding it there
  rw [h.makeDirectories_run, run_step_bind, h.makeDirectory_run, hthere]
  simp only [Option.isSome_some, if_true, Disk.settle]
  rw [run_step_bind, hkind]
  rfl

end RunDirectory

/-- Room for the files of a run: its directory is there or can be made, and no directory stands where
a file is to be. -/
structure Room (place : OutputPlace) (files : List Output) (t : FileTree) (before : List String)
    (stamp : String) (outer : List String) : Prop
    extends RunDirectory place t before stamp outer where
  free : t.node? (outer ++ [stamp]) = none ∨ t.node? (outer ++ [stamp]) = some .directory
  names : ∀ f ∈ files, Path.Fits (place.fileName f.extension)
  paths : ∀ f ∈ files, checkPath (place.path f.extension) = .ok ()
  places : ∀ f ∈ files,
    t.node? (outer ++ [stamp] ++ [place.fileName f.extension]) ≠ some .directory

namespace Room

variable {place : OutputPlace} {f : Output} {files rest : List Output} {t : FileTree}
  {before outer : List String} {stamp : String}

theorem made (h : Room place files t before stamp outer) : ∃ made,
    (disk.makeDirectories place.directory).run t = (.ok (), made) ∧
    Room place files made before stamp outer ∧
    made.node? (outer ++ [stamp]) = some .directory := by
  rcases h.free with hfree | hthere
  · have hput : (t.put (outer ++ [stamp]) .directory).node? (outer ++ [stamp]) =
        some .directory := node?_put_self (by simp)
    refine ⟨_, h.makeDirectories_fresh hfree, ?_, hput⟩
    refine ⟨h.gains (gains_put_directory hfree), .inr hput, h.names, h.paths, ?_⟩
    intro f hf
    rw [node?_put_of_ne (by simp)]
    exact h.places f hf
  · exact ⟨t, h.makeDirectories_there hthere, h, hthere⟩

theorem write (hplace : place.IsSound) (h : Room place (f :: rest) t before stamp outer)
    (hthere : t.node? (outer ++ [stamp]) = some .directory) :
    t.write (place.path f.extension) f.content = .ok (t.put
      (outer ++ [stamp] ++ [place.fileName f.extension])
      (.file (.bytes f.content.toUTF8.toList))) := by
  have hname := h.names f List.mem_cons_self
  have hpath : place.path f.extension = place.directory ++ "/" ++ place.fileName f.extension := by
    rw [OutputPlace.path, ← OutputPlace.fileName, hname.join_eq hplace.directory]
  have hstart : t.start (place.path f.extension) = t.start place.directory := by
    rw [hpath, start, start, String.append_assoc, Path.isAbsolute_append h.ne_empty]
  have hsteps : Path.steps (place.path f.extension) =
      Path.steps place.directory ++ [place.fileName f.extension] := by
    rw [hpath, Path.steps_append, hname.steps_eq]
  have hreached : (Path.steps place.directory).foldlM t.step (t.start (place.path f.extension)) =
      .ok (outer ++ [stamp]) := by
    obtain ⟨-, -, hreached⟩ := Json.bind_eq_ok.mp
      (locate_eq_ok h.steps h.checked h.reached h.fits h.outerThere)
    rw [hstart, hreached]
  have hlocate := locate_eq_ok hsteps (h.paths f List.mem_cons_self) hreached hname hthere
  refine Json.bind_eq_ok.mpr ⟨_, hlocate, ?_⟩
  rw [List.dropLast_concat, hthere]
  have hfree := h.places f List.mem_cons_self
  split
  · next hdirectory => exact absurd hdirectory hfree
  · next hnone _ => cases hnone
  · next hfile _ => cases hfile
  · rfl

theorem rest_of_put (h : Room place (f :: rest) t before stamp outer)
    (hthere : t.node? (outer ++ [stamp]) = some .directory) (content : FileContent) :
    Room place rest (t.put (outer ++ [stamp] ++ [place.fileName f.extension]) (.file content))
      before stamp outer := by
  have hgains := gains_put_file content (h.places f List.mem_cons_self)
  refine ⟨h.gains hgains, .inr (hgains.directories _ hthere), ?_, ?_, ?_⟩
  · exact fun g hg => h.names g (List.mem_cons_of_mem f hg)
  · exact fun g hg => h.paths g (List.mem_cons_of_mem f hg)
  · intro g hg
    by_cases hsame : outer ++ [stamp] ++ [place.fileName f.extension] =
        outer ++ [stamp] ++ [place.fileName g.extension]
    · rw [← hsame, node?_put_self (by simp)]
      simp
    · rw [node?_put_of_ne hsame]
      exact h.places g (List.mem_cons_of_mem f hg)

theorem accepts (hplace : place.IsSound) (h : Room place files t before stamp outer) :
    Accepts place files t := by
  -- on the files, over all trees: what one file adds takes no room from the next
  induction files generalizing t with
  | nil => exact trivial
  | cons f rest ih =>
    obtain ⟨made, hmade, hroom, hthere⟩ := h.made
    exact ⟨made, _, hmade, hroom.write hplace hthere, ih (hroom.rest_of_put hthere _)⟩

end Room

end FleetDrift
