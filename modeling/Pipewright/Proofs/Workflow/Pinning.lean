import Pipewright.Proofs.Workflow.Consistency

set_option autoImplicit false

/-! # Handing packages on

When the URNs of a configuration are resolved, their packages go to the fetcher and to the template.
`Tool.HandsOn` says which packages these are, and `Tool.handsOn_pinned` that they are the resolved
ones with their pins, whether they are fetched or not. -/

namespace Pipewright

open Pipewright.Action Project

namespace Tool

/-- Behind the resolution of a configuration these packages are handed on. The fetcher is called on
    each of them in their order, or on those before one that cannot be fetched and on that one; what
    is gathered has them, the data that a template is rendered with are made of them and list them,
    and the source file of a project is written with what the template gives for such data. -/
structure HandsOn (tool : Tool) (configPath : Path) (options : CreateOptions) (start : World)
    (pipeline : ResolvedPipeline) (resolved : World) (packages : List Package) : Prop where
  gathers :
    (∃ after,
      (tool.gather configPath options).runOn start = (.ok { pipeline with packages }, after) ∧
      tool.Leads options resolved
        (if options.getPackages then packages.map (fetchEffect options) else []) after) ∨
    options.getPackages = true ∧ ∃ done package rest failure before after,
      packages = done ++ package :: rest ∧
      tool.Leads options resolved (done.map (fetchEffect options)) before ∧
      tool.FetchFails options package failure before after ∧
      (tool.gather configPath options).runOn start = (.error failure, after)
  renders : ∀ overrides prepared world,
    tool.ComesToRender configPath options overrides start prepared world →
      prepared.data.packages = packages ∧ prepared.data.toJson.ListsPackages packages
  writes : ∀ overrides context after,
    (tool.createProject configPath options overrides).runOn start = (.ok context, after) →
      ∃ prepared world text files,
        tool.ComesToRender configPath options overrides start prepared world ∧
        Template.render prepared.template prepared.data.toJson = .ok text ∧
        world.files.write world.directory context.project.sourcePath (Text.Utf8.encode text) =
          .ok files

variable {tool : Tool} {options : CreateOptions} {configPath : Path} {start resolved after : World}
  {overrides : Option Arguments} {pipeline : ResolvedPipeline} {packages : List Package}

/-- What is gathered is what is rendered. -/
theorem renders_of_gather
    (h : (tool.gather configPath options).runOn start = (.ok { pipeline with packages }, after))
    {prepared : Prepared} {world : World}
    (hcomes : tool.ComesToRender configPath options overrides start prepared world) :
    prepared.data.packages = packages ∧ prepared.data.toJson.ListsPackages packages := by
  obtain ⟨other, gathered, hgather, hprepare⟩ := hcomes
  rw [h] at hgather
  cases hgather
  obtain ⟨-, template, defaults, -, rfl⟩ := prepare_ok hprepare
  exact ⟨rfl, ProjectData.listsPackages _⟩

/-- What a project is rendered with is written to its source file. -/
theorem writes_of_createProject {context : ProjectContext}
    (h : (tool.createProject configPath options overrides).runOn start = (.ok context, after)) :
    ∃ prepared world text files,
      tool.ComesToRender configPath options overrides start prepared world ∧
      Template.render prepared.template prepared.data.toJson = .ok text ∧
      world.files.write world.directory context.project.sourcePath (Text.Utf8.encode text) =
        .ok files := by
  obtain ⟨gathered, prepared, world, rendered, hgather, hprepare, hcomplete, -⟩ :=
    createProject_eq_ok_iff.1 h
  obtain ⟨-, text, files, _, htext, hsource, -⟩ := complete_ok hcomplete
  exact ⟨prepared, world, text, files, ⟨_, gathered, hgather, hprepare⟩, htext, hsource⟩

/-- The resolved packages are handed on with their pins. -/
theorem handsOn_pinned (hvalid : options.validate = .ok ())
    (hresolve : (tool.resolve configPath options.sources options.workspace).runOn start =
      (.ok pipeline, resolved)) :
    tool.HandsOn configPath options start pipeline resolved
      (pipeline.packages.map (pin options)) := by
  have hgathers := gather_resolved hvalid hresolve
  refine ⟨hgathers, fun overrides prepared world hcomes => ?_,
    fun overrides context after => writes_of_createProject⟩
  rcases hgathers with ⟨after, hgather, -⟩ | ⟨-, _, _, _, failure, _, after, -, -, -, hgather⟩
  · exact renders_of_gather hgather hcomes
  · obtain ⟨other, gathered, hother, -⟩ := hcomes
    rw [hgather] at hother
    cases hother

end Tool

end Pipewright
