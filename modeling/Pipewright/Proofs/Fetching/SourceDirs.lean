import Pipewright.Package
import Pipewright.Proofs.World.Segments

set_option autoImplicit false

/-! # The directories of packages

A package lives below the root of its sources, at the segments of its import path
(`sourceDir_extends`). Slashes at the ends of an import path, and more than one in a row, make no
difference, so packages with the same root share a directory exactly if their import paths have the
same segments. One directory lies below another if the segments of the one continue those of the
other (`Package.liesBelow_iff`). -/

namespace Pipewright

open Pipewright.Path

namespace Package

/-- The directory of a package has the segments of its root, and then those of its import path. -/
theorem segments_sourceDir (package : Package) :
    segments package.sourceDir = segments package.sourceRoot ++ segments package.uri :=
  segments_foldl_join _ fun _ hname => isSegment_of_mem_segments hname

/-- Packages with the same root live in the same directory if their import paths have the same
    segments, and only then. -/
theorem sourceDir_eq_iff {package other : Package}
    (hroot : other.sourceRoot = package.sourceRoot) :
    other.sourceDir = package.sourceDir ↔ segments other.uri = segments package.uri := by
  constructor
  · intro h
    have hsegments := congrArg segments h
    rw [segments_sourceDir, segments_sourceDir, hroot] at hsegments
    exact List.append_cancel_left hsegments
  · intro h
    rw [sourceDir, sourceDir, h, hroot]

end Package

/-- Segments lead from the directory to the path, at least one. -/
def Path.LiesBelow (path dir : Path) : Prop :=
  ∃ names : List String, names ≠ [] ∧ (∀ name ∈ names, IsSegment name) ∧
    path = names.foldl join dir

theorem Path.LiesBelow.ne {path dir : Path} (h : path.LiesBelow dir) : path ≠ dir := by
  obtain ⟨names, hsome, hnames, rfl⟩ := h
  intro hsame
  have hsegments := congrArg segments hsame
  rw [segments_foldl_join dir hnames] at hsegments
  exact hsome (List.append_right_eq_self.1 hsegments)

/-- A package lives below another one with the same root if its import path goes on where that of
    the other ends. -/
theorem Package.liesBelow_iff {package other : Package}
    (hroot : other.sourceRoot = package.sourceRoot) :
    other.sourceDir.LiesBelow package.sourceDir ↔
      ∃ names, names ≠ [] ∧ segments other.uri = segments package.uri ++ names := by
  constructor
  · rintro ⟨names, hsome, hnames, hdir⟩
    refine ⟨names, hsome, ?_⟩
    have hsegments := congrArg segments hdir
    rw [segments_foldl_join _ hnames, segments_sourceDir, segments_sourceDir, hroot,
      List.append_assoc] at hsegments
    exact List.append_cancel_left hsegments
  · rintro ⟨names, hsome, hsegments⟩
    refine ⟨names, hsome, fun name hname => ?_, ?_⟩
    · exact isSegment_of_mem_segments (hsegments ▸ List.mem_append_right _ hname)
    · rw [sourceDir, sourceDir, hsegments, List.foldl_append, hroot]

/-- **Where packages live.** The directory of a package is the root of its sources and then the
    non-empty pieces between the slashes of its import path, in order and with one slash between
    them. Whatever the import path, the root is not replaced, and no slash is added at the end.
    Below one root, import paths with the same non-empty pieces, and no others, have the same
    directory. -/
theorem sourceDir_extends (root : Path) (uri revision : String) :
    let names := segments uri
    let dir := Package.sourceDir ⟨uri, revision, root⟩
    names = ((uri.toList.splitOn '/').filter (· ≠ [])).map String.ofList ∧
    dir = (if names = [] then root else root ++ separator root ++ "/".intercalate names) ∧
    segments dir = segments root ++ names ∧
    isAbsolute dir = isAbsolute root ∧
    endsWithSlash dir = (decide (names = []) && endsWithSlash root) ∧
    ∀ other otherRevision,
      Package.sourceDir ⟨other, otherRevision, root⟩ = dir ↔ segments other = names := by
  intro names dir
  have hnames : ∀ name ∈ names, IsSegment name := fun _ hname => isSegment_of_mem_segments hname
  have hdir : dir = names.foldl join root := rfl
  refine ⟨segments_eq_splitOn uri, ?_, Package.segments_sourceDir _, ?_, ?_, fun other _ => ?_⟩
  · by_cases hnone : names = []
    · rw [if_pos hnone, hdir, hnone, List.foldl_nil]
    · rw [if_neg hnone, hdir, foldl_join_eq root hnames hnone]
  · exact isAbsolute_foldl_join root hnames
  · by_cases hnone : names = []
    · rw [hdir, hnone, List.foldl_nil]
      simp
    · rw [hdir, endsWithSlash_foldl_join root hnames hnone]
      simp [hnone]
  · exact Package.sourceDir_eq_iff rfl

example : Package.sourceDir (.latest "/ws/src" "/a.org//b/") = "/ws/src/a.org/b" := by
  decide +kernel
example : Package.sourceDir (.latest "/ws/src/" "//") = "/ws/src/" := by decide +kernel

end Pipewright
