import Mathlib.Data.List.TakeWhile
import Pipewright.Proofs.Workflow.Consistency
import Pipewright.Proofs.World.Components

set_option autoImplicit false

/-! # The directory of a template

Each template has a directory of its own below the root of all templates. The name that selects it
is judged without the blanks around it and joined with them, which does no harm, for a blank is no
slash and a name with blanks is no dots (`CreateOptions.name_of_fault_eq_none`). **A name that is
accepted is one component below the root** (`templatePaths_below`), but for the name `.`, which is
accepted too and selects the root itself (`templatePaths_at_root`). -/

namespace Pipewright

open Pipewright.Path

/-! ## Names without the blanks around them -/

namespace Text

theorem mem_dropWhile {c : Char} {cs : List Char} (h : c ∈ cs) (hc : isBlank c = false) :
    c ∈ cs.dropWhile isBlank := by
  rw [← List.takeWhile_append_dropWhile (p := isBlank) (l := cs), List.mem_append] at h
  refine h.resolve_left fun hblank => ?_
  rw [List.mem_takeWhile_imp hblank] at hc
  cases hc

/-- Trimming takes away nothing but blanks. -/
theorem mem_trim {c : Char} {text : String} (h : c ∈ text.toList) (hc : isBlank c = false) :
    c ∈ (trim text).toList := by
  unfold trim trimEndChars trimStartChars
  rw [String.toList_ofList, List.mem_reverse]
  exact mem_dropWhile (List.mem_reverse.2 (mem_dropWhile h hc)) hc

end Text

/-- A template name in which no fault is found is a single dot or the name of an entry. -/
theorem CreateOptions.name_of_fault_eq_none {name : String} (h : templateNameFault? name = none) :
    name = "." ∨ IsEntry name := by
  unfold templateNameFault? at h
  dsimp only at h
  split at h
  · cases h
  · next hsome =>
    split at h
    · cases h
    · next hplain =>
      simp only [Bool.or_eq_true, List.any_eq_true, decide_eq_true_eq, not_or, not_exists,
        not_and] at hplain
      have hslash : '/' ∉ name.toList := fun hmem =>
        (hplain.1 '/' (Text.mem_trim hmem (by decide))).1 rfl
      have hup : name ≠ ".." := by
        rintro rfl
        exact hplain.2 (by decide +kernel)
      have hempty : name ≠ "" := by
        rintro rfl
        exact hsome (by decide +kernel)
      by_cases hdot : name = "."
      · exact .inl hdot
      · exact .inr ⟨hslash, by simp [FileSystem.isHere, hempty, hdot], hup⟩

/-! ## Where the files of a template are -/

theorem argumentsFile_isEntry : IsEntry argumentsFile := ⟨by decide, by decide, by decide⟩

/-- The directory below which the templates of a workspace live. -/
def LayoutSettings.templatesDir (layout : LayoutSettings) (workspace : Path) : Path :=
  join (layout.sourceRoot workspace) layout.templateRoot

/-- The directory of the template that the options name. -/
def LayoutSettings.templateDir (layout : LayoutSettings) (options : CreateOptions) : Path :=
  join (layout.templatesDir options.workspace) options.templateName

/-- **Templates live one component below their root.** Whatever the layout, the directory of a
    template whose name is accepted has the components of the root and one more, the name as it was
    given, and the template and its arguments lie in it. A single dot is accepted too, and selects
    the root itself. -/
theorem templatePaths_below {layout : LayoutSettings} {options : CreateOptions}
    (hvalid : options.validate = .ok ()) :
    let root := layout.templatesDir options.workspace
    let dir := layout.templateDir options
    let paths := layout.templatePaths options
    (options.templateName ≠ "." →
      components dir = components root ++ [.name options.templateName]) ∧
    (options.templateName = "." → components dir = components root) ∧
    paths = ⟨join dir entryPoint, join dir argumentsFile⟩ ∧
    components paths.template = components dir ++ [.name entryPoint] ∧
    components paths.arguments = components dir ++ [.name argumentsFile] := by
  intro root dir paths
  obtain ⟨hworkspace, -, hname, -⟩ := CreateOptions.validate_eq_ok_iff.1 hvalid
  have hroot : root ≠ "" := join_ne_empty_of_base (join_ne_empty_of_base hworkspace)
  have hdir : dir ≠ "" := join_ne_empty_of_base hroot
  refine ⟨fun hother => ?_, fun hdot => ?_, rfl, components_entry hdir entryPoint_isEntry,
    components_entry hdir argumentsFile_isEntry⟩
  · have hentry := (CreateOptions.name_of_fault_eq_none hname).resolve_left hother
    exact components_entry hroot hentry
  · change components (join root options.templateName) = components root
    rw [hdot]
    exact components_here hroot

/-- A name with blanks around it is a directory of its own, and not the one without them. -/
theorem templatePaths_below_blanks :
    let options : CreateOptions := ⟨"ws", ["m"], " classic ", "p", false, false, false, []⟩
    options.validate = .ok () ∧ options.templateName ≠ "." ∧
      components (LayoutSettings.default.templateDir options) =
        [.name "ws", .name "src", .name "github.com", .name "gogap", .name "spirit-tool",
          .name "template", .name " classic "] := by
  intro options
  have hvalid : options.validate = .ok () := CreateOptions.validate_eq_ok_iff.2
    ⟨by decide, by decide, by decide +kernel, by decide, rfl⟩
  have hother : options.templateName ≠ "." := by decide
  obtain ⟨hbelow, -⟩ := @templatePaths_below .default options hvalid
  have hroot : components (LayoutSettings.default.templatesDir options.workspace) =
      [.name "ws", .name "src", .name "github.com", .name "gogap", .name "spirit-tool",
        .name "template"] := by decide +kernel
  refine ⟨hvalid, hother, ?_⟩
  rw [hbelow hother, hroot]
  rfl

/-- A single dot is accepted as the name of a template, and the files that are then read lie in the
    root of all templates. -/
theorem templatePaths_at_root :
    let options : CreateOptions := ⟨"ws", ["m"], ".", "p", false, false, false, []⟩
    let root := LayoutSettings.default.templatesDir options.workspace
    let dir := LayoutSettings.default.templateDir options
    options.validate = .ok () ∧ components dir = components root ∧
      ¬ ∃ name, components dir = components root ++ [.name name] := by
  intro options root dir
  have hvalid : options.validate = .ok () := CreateOptions.validate_eq_ok_iff.2
    ⟨by decide, by decide, by decide +kernel, by decide, rfl⟩
  have hsame : components dir = components root := by decide +kernel
  refine ⟨hvalid, hsame, ?_⟩
  rintro ⟨name, hmore⟩
  rw [hsame] at hmore
  exact absurd (List.append_right_eq_self.1 hmore.symm) (List.cons_ne_nil _ _)

end Pipewright
