import FleetDrift.Proofs.TreeGrowth
import FleetDrift.Report.Files

/-! # Where a run puts its files
The directory of a run stands in the output directory and has a name of its own, and so does each
file in it: no slash in it leads away, and it is none of the steps that are no names. -/
namespace FleetDrift

namespace Path

structure IsName (s : String) : Prop where
  noSlash : '/' ∉ s.toList
  nonempty : s ≠ ""
  notHere : s ≠ "."
  notAbove : s ≠ ".."

variable {name dir : String}

theorem one_le_length_toList (h : name ≠ "") : 1 ≤ name.toList.length := by
  rw [Nat.one_le_iff_ne_zero, Ne, List.length_eq_zero_iff, String.toList_eq_nil_iff]
  exact h

theorem IsName.not_staysInPlace (h : IsName name) : staysInPlace name = false := by
  simp [staysInPlace, h.nonempty, h.notHere]

theorem IsName.not_isAbsolute (h : IsName name) : ¬ isAbsolute name = true := by
  rw [isAbsolute, String.startsWith_string_iff]
  intro hslash
  exact h.noSlash (hslash.subset (by decide))

/-- A text that ends in something else does not end in a slash. -/
theorem IsName.not_endsWith_slash (h : IsName name) (base : String) :
    ¬ (base ++ name).endsWith "/" = true := by
  rw [String.endsWith_eq_endsWith_toSlice, String.Slice.endsWith_string_iff, String.copy_toSlice]
  intro hslash
  have hlength : "/".toList.length ≤ name.toList.length := one_le_length_toList h.nonempty
  have hname : name.toList <:+ (base ++ name).toList := by
    rw [String.toList_append]
    exact List.suffix_append _ _
  exact h.noSlash ((List.suffix_of_suffix_length_le hslash hname hlength).subset (by decide))

theorem IsName.withExtension (h : IsName name) {extension : String}
    (hslash : '/' ∉ extension.toList) (hextension : extension ≠ "") :
    IsName (name ++ "." ++ extension) := by
  have hlong : ∀ s : String, s.toList.length ≤ 2 → name ++ "." ++ extension ≠ s := by
    intro s hs heq
    have hname := one_le_length_toList h.nonempty
    have hext := one_le_length_toList hextension
    rw [← heq] at hs
    simp only [String.toList_append, List.length_append] at hs
    have hdot : ".".toList.length = 1 := rfl
    omega
  refine ⟨?_, hlong "" (by decide), hlong "." (by decide), hlong ".." (by decide)⟩
  simp only [String.toList_append, List.mem_append, not_or]
  exact ⟨⟨h.noSlash, by decide⟩, hslash⟩

theorem steps_append (a b : String) : steps (a ++ "/" ++ b) = steps a ++ steps b := by
  have hchars : (a ++ "/" ++ b).toList = a.toList ++ '/' :: b.toList := by simp
  rw [steps, hchars, List.splitOn, List.splitOnP_append_cons _ _ (by decide), List.map_append]
  rfl

theorem IsName.steps_eq (h : IsName name) : steps name = [name] := by
  rw [steps, List.splitOn_eq_singleton h.noSlash, List.map_singleton, String.ofList_toList]

structure IsDirectoryPath (dir : String) : Prop where
  nonempty : dir ≠ ""
  noSlash : ¬ dir.endsWith "/" = true

theorem IsName.join_eq (h : IsName name) (hdir : IsDirectoryPath dir) :
    join dir name = dir ++ "/" ++ name := by
  rw [join, if_neg h.not_isAbsolute, if_neg]
  rintro (hempty | hslash)
  · exact hdir.nonempty hempty
  · exact hdir.noSlash hslash

theorem IsName.isDirectoryPath_join (h : IsName name) (base : String) :
    IsDirectoryPath (join base name) := by
  rw [join, if_neg h.not_isAbsolute]
  have hsome : ∀ front : String, IsDirectoryPath (front ++ name) := by
    intro front
    refine ⟨?_, h.not_endsWith_slash front⟩
    rw [Ne, String.append_eq_empty_iff]
    exact fun hempty => h.nonempty hempty.2
  split
  · exact hsome base
  · exact hsome (base ++ "/")

theorem isAbsolute_append (h : dir ≠ "") (rest : String) :
    isAbsolute (dir ++ rest) = isAbsolute dir := by
  have hlength : "/".toList.length ≤ dir.toList.length := one_le_length_toList h
  rw [Bool.eq_iff_iff, isAbsolute, isAbsolute, String.startsWith_string_iff,
    String.startsWith_string_iff, String.toList_append]
  constructor
  · intro hslash
    exact List.prefix_of_prefix_length_le hslash (List.prefix_append _ _) hlength
  · intro hslash
    exact hslash.trans (List.prefix_append _ _)

end Path

namespace FileTree

variable {t : FileTree} {dir name : String} {place p : List String}

theorem step_name (h : Path.IsName name) (hstep : t.step place name = .ok p) :
    p = place ++ [name] := by
  rw [step] at hstep
  split at hstep
  · cases hstep
  · cases hstep
  · rw [if_neg (by simp [h.not_staysInPlace]), if_neg h.notAbove] at hstep
    split at hstep
    · cases hstep
    · exact (Except.ok.inj hstep).symm

theorem checkPath_eq_ok {path : String} : checkPath path = .ok () ↔
    '\x00' ∉ path.toList ∧ path ≠ "" ∧ path.utf8ByteSize ≤ maxPath := by
  rw [checkPath]
  simp only [String.contains_char_eq, decide_eq_true_eq]
  by_cases hzero : '\x00' ∈ path.toList
  · simp [hzero]
  · by_cases hempty : path = ""
    · simp [hempty]
    · by_cases hlong : maxPath < path.utf8ByteSize
      · simp [hzero, hempty, hlong]
      · simp [hzero, hempty, hlong, Nat.le_of_not_lt hlong]

theorem checkPath_of_append {rest : String} (hdir : dir ≠ "")
    (h : checkPath (dir ++ rest) = .ok ()) : checkPath dir = .ok () := by
  rw [checkPath_eq_ok, String.toList_append, List.mem_append, not_or,
    String.utf8ByteSize_append] at h
  exact checkPath_eq_ok.mpr ⟨h.1.1, hdir, by omega⟩

theorem locate_file (hdir : Path.IsDirectoryPath dir) (hname : Path.IsName name)
    (h : t.locate (dir ++ "/" ++ name) = .ok p) :
    ∃ d, t.locate dir = .ok d ∧ p = d ++ [name] := by
  -- the name is the last step, and the steps before it are those of the directory
  obtain ⟨checked, hcheck, hsteps⟩ := Json.bind_eq_ok.mp h
  have hstart : t.start (dir ++ "/" ++ name) = t.start dir := by
    rw [start, start, String.append_assoc, Path.isAbsolute_append hdir.nonempty]
  rw [Path.steps_append, hname.steps_eq, hstart, List.foldlM_append] at hsteps
  obtain ⟨d, hd, hlast⟩ := Json.bind_eq_ok.mp hsteps
  rw [List.foldlM_cons] at hlast
  obtain ⟨p', hp', hp⟩ := Json.bind_eq_ok.mp hlast
  cases hp
  refine ⟨d, Json.bind_eq_ok.mpr ⟨(), ?_, hd⟩, step_name hname hp'⟩
  rw [String.append_assoc] at hcheck
  exact checkPath_of_append hdir.nonempty hcheck

end FileTree

end FleetDrift
