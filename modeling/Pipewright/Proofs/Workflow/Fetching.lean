import Pipewright.Proofs.Fetching.Pass
import Pipewright.Proofs.Workflow.Gathering

set_option autoImplicit false

/-! # The packages of a project

**Fetching gives the packages their pins and nothing else.** A pass makes its calls in the order of
the packages, up to the first that fails, and gives back the packages with their pins. These are
the packages that a project is rendered with, whether they were fetched or not (`fetch_pass`). -/

namespace Pipewright

open Pipewright.Action

namespace Tool

/-- Renders a project with these packages, as the last stage of its creation. -/
def renderWith (tool : Tool) (options : CreateOptions) (overrides : Option Arguments)
    (pipeline : ResolvedPipeline) (packages : List Package) : Job ProjectContext := do
  let project ← stage (Project.render tool.host tool.settings.layout
    (tool.toolchain options.workspace) options packages pipeline.config overrides)
  Job.log .info .workflow
  return { pipeline := { pipeline with packages }, project }

variable {tool : Tool} {options : CreateOptions}

/-- A fetch that succeeds gives back the packages with their pins, whatever the fetcher does. -/
theorem fetch_ok {packages fetched : List Package} {world after : World}
    (h : (tool.fetch options packages).runOn world = (.ok fetched, after)) :
    fetched = applyPins options.pins packages := by
  unfold fetch at h
  obtain ⟨given, middle, hpass, h⟩ := runOn_bind_eq_ok h
  obtain ⟨rfl, -⟩ := fetchAll_ok hpass
  obtain ⟨⟨⟩, logged, -, h⟩ := runOn_bind_eq_ok h
  cases h
  rfl

/-- Gathering that succeeds resolves, and gives the packages their pins. -/
theorem gather_ok {configPath : Path} {gathered : ResolvedPipeline} {start after : World}
    (h : (tool.gather configPath options).runOn start = (.ok gathered, after)) :
    ∃ pipeline resolved,
      (tool.resolve configPath options.sources options.workspace).runOn start =
        (.ok pipeline, resolved) ∧
      gathered = { pipeline with packages := applyPins options.pins pipeline.packages } ∧
      (options.getPackages = false → after = resolved) := by
  unfold gather at h
  obtain ⟨⟨⟩, valid, hvalid, h⟩ := runOn_bind_eq_ok h
  obtain ⟨-, rfl⟩ := Prod.mk.inj (runOn_stage_eq_ok hvalid)
  obtain ⟨pipeline, resolved, hresolve, h⟩ := runOn_bind_eq_ok h
  refine ⟨pipeline, resolved, hresolve, ?_⟩
  cases hget : options.getPackages with
  | false =>
    rw [hget] at h
    cases h
    exact ⟨rfl, fun _ => rfl⟩
  | true =>
    rw [hget] at h
    obtain ⟨packages, fetched, hfetch, h⟩ := runOn_bind_eq_ok h
    cases h
    rw [fetch_ok (runOn_stage_eq_ok hfetch)]
    exact ⟨rfl, nofun⟩

end Tool

/-- **Fetch passes.** However a fetcher answers, a pass calls it on the packages with their pins,
    one after the other and all with the same `update`, and ends with the first call that fails and
    its failure; otherwise it gives back the packages with their pins. Pinning keeps the packages in
    their order, changes the revision of just those that a pin names, and is idempotent. A project
    that is created without fetching is rendered with the same packages, and so is every other. -/
theorem fetch_pass :
    (∀ {σ : Type} (fetcher : Fetcher σ) (update : Bool) (pins : Pins) (packages : List Package)
        (start : σ),
      let pinned := applyPins pins packages
      let run := (fetchAll fetcher update pins packages).runOn start
      ∃ calls result, Passes fetcher start calls result run.2 ∧
        calls <+: callsOn update pinned ∧ (result = .ok () → calls = callsOn update pinned) ∧
        run.1 = result.map fun _ => pinned) ∧
    (∀ (pins : Pins) (packages : List Package),
      List.Forall₂ (Package.Revised pins) packages (applyPins pins packages) ∧
      applyPins pins (applyPins pins packages) = applyPins pins packages) ∧
    ∀ (tool : Tool) (configPath : Path) (options : CreateOptions) (overrides : Option Arguments),
      (options.getPackages = false →
        tool.createProject configPath options overrides = do
          stage (ExceptT.mk (pure options.validate))
          let pipeline ← tool.resolve configPath options.sources options.workspace
          tool.renderWith options overrides pipeline
            (applyPins options.pins pipeline.packages)) ∧
      ∀ (start after : World) (gathered : ResolvedPipeline),
        (tool.gather configPath options).runOn start = (.ok gathered, after) →
        ∃ pipeline resolved,
          (tool.resolve configPath options.sources options.workspace).runOn start =
            (.ok pipeline, resolved) ∧
          (tool.createProject configPath options overrides).runOn start =
            (tool.renderWith options overrides pipeline
              (applyPins options.pins pipeline.packages)).runOn after := by
  refine ⟨fun fetcher update pins packages start => ?_, fun pins packages => ?_,
    fun tool configPath options overrides =>
      ⟨fun hget => ?_, fun start after gathered hgather => ?_⟩⟩
  · obtain ⟨calls, hpasses, hprefix, hall⟩ :=
      fetchEach_passes fetcher update (applyPins pins packages) start
    simp only [runOn_fetchAll]
    exact ⟨calls, _, hpasses, hprefix, hall, rfl⟩
  · exact ⟨applyPins_revised pins packages, applyPins_applyPins pins packages⟩
  · simp only [Tool.createProject, Tool.gather, Tool.renderWith, hget, Bool.false_eq_true, if_false,
      bind_assoc, pure_bind]
  · obtain ⟨pipeline, resolved, hresolve, rfl, -⟩ := Tool.gather_ok hgather
    refine ⟨pipeline, resolved, hresolve, ?_⟩
    simp only [Tool.createProject]
    rw [runOn_bind_ok hgather]
    rfl

end Pipewright
