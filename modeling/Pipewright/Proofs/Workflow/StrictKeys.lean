import Pipewright.Proofs.Template.Strict
import Pipewright.Proofs.Workflow.Creation

set_option autoImplicit false

/-! # Strict keys in projects

Where the template of a project is plain, a reference that is absent from the project's data makes
the creation fail in rendering. Nothing has been written by then (`strict_keys`). -/

namespace Pipewright

open Pipewright.Action Project Template

variable {tool : Tool} {configPath : Path} {options : CreateOptions}
  {overrides : Option Arguments} {start world : World} {prepared : Prepared}

/-- A template that cannot be rendered ends the creation where it is. -/
theorem Tool.ComesToRender.createProject_run {fault : RenderFault}
    (h : tool.ComesToRender configPath options overrides start prepared world)
    (hfault : Template.render prepared.template prepared.data.toJson = .error fault) :
    (tool.createProject configPath options overrides).runOn start =
      (.error (.render prepared.templatePath fault.message),
        world.record .error .logging) := by
  obtain ⟨pipeline, gathered, hgather, hprepare⟩ := h
  have hcomplete : (complete tool.host (tool.toolchain options.workspace) pipeline.config
      prepared).runOn world = (.error (.render prepared.templatePath fault.message), world) := by
    unfold complete
    rw [hfault]
    rfl
  have hrender : (Project.render tool.host tool.settings.layout (tool.toolchain options.workspace)
      options pipeline.packages pipeline.config overrides).runOn gathered =
        (.error (.render prepared.templatePath fault.message), world) := by
    unfold Project.render
    rw [runOn_bind_ok hprepare]
    exact hcomplete
  unfold Tool.createProject
  rw [runOn_bind_ok hgather, runOn_bind_error (runOn_stage_error hrender)]

/-- **Strict keys.** A plain template fails to render exactly if evaluation reaches an absent
    reference, and then with the fault of this reference; a block with an absent parameter fails
    whatever stands after its `else`. A creation that comes to render such a template fails in
    rendering and leaves the regular files as the fetcher has left them. -/
theorem strict_keys {template : List Element} (h : IsPlain template) :
    (∀ data, (∃ fault, Template.render template data = .error fault) ↔
      ∃ lookup, Reaches template (.start data) lookup ∧ lookup.isAbsent) ∧
    (∀ data lookup, Reaches template (.start data) lookup → lookup.isAbsent →
      Template.render template data = .error lookup.fault) ∧
    (∀ main visit call helper path names body inverse place page,
      call.Opens helper (.reference path) → place.value? path = none →
      (renderElement main visit (.block call names body inverse) place).run page =
        .error (Lookup.mk path place).fault) ∧
    ∀ (tool : Tool) configPath options overrides start prepared world lookup,
      tool.ComesToRender configPath options overrides start prepared world →
      prepared.template = template →
      Reaches template (.start prepared.data.toJson) lookup → lookup.isAbsent →
      (tool.createProject configPath options overrides).runOn start =
          (.error (.render prepared.templatePath lookup.fault.message),
            world.record .error .logging) ∧
        ∃ fetched, Fetched (tool.activeFetcher options) start fetched ∧
          ∀ location, world.files.file? location = fetched.files.file? location := by
  refine ⟨h.render_error_iff, fun data lookup => h.render_error, ?_, ?_⟩
  · intro main visit call helper path names body inverse place page hopens hnone
    exact renderBlock_absent hopens (Option.isNone_iff_eq_none.mpr hnone) page
  · intro tool configPath options overrides start prepared world lookup hcomes htemplate
      hreaches habsent
    have hfault : Template.render prepared.template prepared.data.toJson = .error lookup.fault := by
      rw [htemplate]
      exact h.render_error hreaches habsent
    have hrun := hcomes.createProject_run hfault
    have hother : ¬ IsIo (.render prepared.templatePath lookup.fault.message) := by
      rintro ⟨_, _, hio⟩
      cases hio
    obtain ⟨fetched, hfetched, hfiles, _⟩ :=
      createProject_error tool configPath options overrides hrun hother
    exact ⟨hrun, fetched, hfetched, hfiles⟩

/-- An `else` does not help a block whose parameter is absent. -/
theorem strict_keys_else :
    let switch : Element := .block ⟨"if", [.reference (.path [.name "debug"] "debug")], []⟩ .none
      [.text "on"] (some [.text "off"])
    IsPlain [switch] ∧ ∃ fault, Template.render [switch] (.object []) = .error fault := by
  intro switch
  have hplain : IsPlain [switch] := by
    simp only [switch, IsPlain, Element.IsPlain, IsPlainInverse, and_true]
    exact ⟨.if_, _, rfl, rfl, rfl, trivial, by decide⟩
  refine ⟨hplain, ((strict_keys hplain).1 _).mpr ?_⟩
  exact ⟨⟨.path [.name "debug"] "debug", .start (.object [])⟩, ⟨[], [], rfl, by simp⟩, rfl⟩

example : Template.render [.value (.reference (.path [.name "debug"] "debug"))]
    (.object [("debug", .null)]) = .ok "" := rfl

end Pipewright
