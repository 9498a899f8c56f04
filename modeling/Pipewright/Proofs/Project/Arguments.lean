import Pipewright.Proofs.Dictionary
import Pipewright.Proofs.Json.Restoring
import Pipewright.Proofs.Workflow.Offline

set_option autoImplicit false

/-! # Overlaid arguments

**Overlays compose.** Each argument has the value of the overlay if the overlay has the key, as a
whole and even if it is `null`, and else its default; overlays one after the other are one overlay,
and overlaying again changes nothing (`mergeArguments_overlays`). A template is rendered with its
defaults, overlaid in this way (`Project.prepare_arguments`). -/

namespace Pipewright

open Pipewright.Action

/-- The members of an object that is read ascend. -/
theorem Json.isSorted_of_parse? {bytes : Bytes} {members : Dictionary Json}
    (h : Json.parse? bytes = .ok (.object members)) : Dictionary.IsSorted members := by
  unfold Json.parse? Json.ofBytes? at h
  obtain ⟨json, hjson, h⟩ := Except.bind_ok_iff.1 h
  have hsorted : json.IsSorted := Decoder.json_yields _ _ _ hjson
  split at h
  · cases h
  · cases h
    exact hsorted.1

namespace Project

theorem argumentsOn_isSorted {disk : Disk} {path : Path} {defaults : Arguments}
    (h : argumentsOn disk path = .ok defaults) : Dictionary.IsSorted defaults := by
  unfold argumentsOn at h
  split at h
  · split at h
    · cases h
      exact List.Pairwise.nil
    · cases h
  · split at h
    · next hparse =>
      cases h
      exact Json.isSorted_of_parse? hparse
    · cases h
    · cases h

/-- What is made ready has the arguments that were read. -/
theorem ready_arguments {layout : LayoutSettings} {options : CreateOptions}
    {packages : List Package} {config : LoadedConfig} {surveyed : Survey} {prepared : Prepared}
    {world after : World}
    (h : (ready layout options packages config surveyed).runOn world = (.ok prepared, after)) :
    prepared.data.arguments = surveyed.arguments := by
  unfold ready at h
  obtain ⟨result, made, -, h⟩ := runOn_bind_eq_ok h
  obtain ⟨⟨⟩, there, -, h⟩ := runOn_bind_eq_ok h
  cases h
  rfl

/-- The arguments of a project that is prepared are the defaults of its template, overlaid. -/
theorem prepare_arguments {layout : LayoutSettings} {options : CreateOptions}
    {packages : List Package} {config : LoadedConfig} {overrides : Option Arguments}
    {prepared : Prepared} {world after : World}
    (h : (prepare layout options packages config overrides).runOn world = (.ok prepared, after)) :
    ∃ defaults, argumentsOn world.disk (layout.templatePaths options).arguments = .ok defaults ∧
      Dictionary.IsSorted defaults ∧
      prepared.data.arguments = mergeArguments defaults overrides := by
  rw [prepare_parts] at h
  obtain ⟨surveyed, read, hsurvey, h⟩ := runOn_bind_eq_ok h
  have hon := (survey_answers layout options config overrides world (.refl world)).1
  rw [hsurvey] at hon
  obtain ⟨-, template, defaults, -, hdefaults, rfl⟩ := surveyOn_eq_ok_iff.1 hon.symm
  refine ⟨defaults, hdefaults, argumentsOn_isSorted hdefaults, ?_⟩
  obtain ⟨result, inspected, -, h⟩ := runOn_bind_eq_ok h
  obtain ⟨isThere, known, -, h⟩ := runOn_bind_eq_ok h
  obtain ⟨made, hready⟩ : ∃ made,
      (ready layout options packages config ⟨template, mergeArguments defaults overrides⟩).runOn
        made = (.ok prepared, after) := by
    cases isThere with
    | false => exact ⟨known, h⟩
    | true =>
      cases hforce : options.forceWrite with
      | false =>
        rw [hforce] at h
        cases h
      | true =>
        rw [hforce] at h
        exact ⟨_, h⟩
  exact ready_arguments hready

end Project

/-- **Overlays compose.** Overlaid arguments have the keys of the overlay and of the defaults and no
    others, with the value of the overlay where it has the key and the default elsewhere. An overlay
    on an overlay is the overlay of both, an absent overlay is an empty one, and the same overlay
    again changes nothing. -/
theorem mergeArguments_overlays {defaults first : Arguments}
    (hdefaults : Dictionary.IsSorted defaults) (hfirst : Dictionary.IsSorted first) :
    let merged := mergeArguments defaults (some first)
    Dictionary.IsSorted merged ∧
    (∀ key value, Dictionary.get? key first = some value →
      Dictionary.get? key merged = some value) ∧
    (∀ key, Dictionary.get? key first = none →
      Dictionary.get? key merged = Dictionary.get? key defaults) ∧
    (∀ key, key ∈ merged.map (·.1) ↔ key ∈ first.map (·.1) ∨ key ∈ defaults.map (·.1)) ∧
    (∀ second : Option Arguments, (∀ overlay ∈ second, Dictionary.IsSorted overlay) →
      mergeArguments merged second =
        mergeArguments defaults (some (mergeArguments first second))) ∧
    mergeArguments defaults none = defaults ∧ mergeArguments defaults (some []) = defaults ∧
    mergeArguments merged (some first) = merged := by
  refine ⟨Dictionary.isSorted_union hdefaults first, fun key value hvalue => ?_,
    fun key hnone => ?_, hfirst.mem_keys_union defaults, fun second hsecond => ?_, rfl, rfl, ?_⟩
  · rw [mergeArguments, hfirst.get?_union, hvalue, Option.some_or]
  · rw [mergeArguments, hfirst.get?_union, hnone, Option.none_or]
  · cases second with
    | none => rfl
    | some second => exact Dictionary.union_union hdefaults hfirst (hsecond second rfl)
  · rw [mergeArguments, mergeArguments, Dictionary.union_union hdefaults hfirst hfirst,
      Dictionary.union_self hfirst]

/-- An object is replaced as a whole and a port by `null`; then the port is set again. -/
theorem mergeArguments_overlays_null :
    let defaults : Arguments := [("limits", .object [("cpu", .ofNat 1), ("memory", .ofNat 2)]),
      ("name", .string "todo"), ("port", .ofNat 8080)]
    let first : Arguments := [("limits", .object [("cpu", .ofNat 4)]), ("port", .null)]
    let second : Arguments := [("port", .ofNat 9)]
    Dictionary.IsSorted defaults ∧ Dictionary.IsSorted first ∧ Dictionary.IsSorted second ∧
    Dictionary.get? "limits" (mergeArguments defaults (some first)) =
      some (.object [("cpu", .ofNat 4)]) ∧
    Dictionary.get? "port" (mergeArguments defaults (some first)) = some .null ∧
    mergeArguments (mergeArguments defaults (some first)) (some second) =
      mergeArguments defaults (some (mergeArguments first (some second))) := by
  intro defaults first second
  have hdefaults : Dictionary.IsSorted defaults := by
    unfold Dictionary.IsSorted
    decide
  have hfirst : Dictionary.IsSorted first := by
    unfold Dictionary.IsSorted
    decide
  have hsecond : Dictionary.IsSorted second := List.pairwise_singleton _ _
  obtain ⟨-, hvalue, -, -, hcompose, -⟩ := mergeArguments_overlays hdefaults hfirst
  refine ⟨hdefaults, hfirst, hsecond, hvalue _ _ rfl, hvalue _ _ rfl,
    hcompose (some second) ?_⟩
  rintro overlay ⟨⟩
  exact hsecond

end Pipewright
