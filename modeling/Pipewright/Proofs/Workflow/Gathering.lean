import Pipewright.Proofs.World.Looking
import Pipewright.Workflow

set_option autoImplicit false

/-! # Gathering what a project is made of

Before a project is rendered, the tool itself only looks: it is the fetcher alone that may change
the disk. `Fetched` describes the worlds that calls of a fetcher lead to, and `Tool.gather` ends in
such a world whether it fails or not (`Tool.gather_moves`). Without a fetcher a world only differs
from where it started in its journal and its log (`Fetched.quiet`). -/

namespace Pipewright

open Pipewright.Action

variable {α : Type}

/-- The worlds that calls of a fetcher lead to, with nothing but notes and log records between
    them. -/
inductive Fetched (fetcher : Option (Fetcher World)) (start : World) : World → Prop
  | idle {world : World} : start.Quiet world → Fetched fetcher start world
  | call {world after : World} {active : Fetcher World} {package : Package} {update : Bool} :
      Fetched fetcher start world → fetcher = some active →
      World.Quiet ((active package update).runOn world).2 after → Fetched fetcher start after

namespace Fetched

variable {fetcher : Option (Fetcher World)} {start world after : World}

theorem then_quiet (h : Fetched fetcher start world) (hafter : world.Quiet after) :
    Fetched fetcher start after := by
  cases h with
  | idle hquiet => exact .idle (hquiet.trans hafter)
  | call hbefore hactive hquiet => exact .call hbefore hactive (hquiet.trans hafter)

theorem trans (h : Fetched fetcher start world) (hafter : Fetched fetcher world after) :
    Fetched fetcher start after := by
  induction hafter with
  | idle hquiet => exact h.then_quiet hquiet
  | call _ hactive hquiet ih => exact .call ih hactive hquiet

instance : IsPreorder World (Fetched fetcher) where
  refl world := .idle (.refl world)
  trans _ _ _ := trans

/-- Without a fetcher nothing changes but the journal and the log. -/
theorem quiet (h : Fetched none start world) : start.Quiet world := by
  cases h with
  | idle hquiet => exact hquiet
  | call _ hactive _ => cases hactive

end Fetched

/-- A quiet action calls no fetcher. -/
theorem Action.Moves.fetched {action : Job α} (h : action.Moves World.Quiet)
    (fetcher : Option (Fetcher World)) : action.Moves (Fetched fetcher) :=
  fun world => .idle (h world)

/-! ## Stages -/

/-- A stage gives what its action gives; a failure is logged. -/
theorem runOn_stage (action : Job α) (world : World) :
    (stage action).runOn world =
      match action.runOn world with
      | (.ok a, after) => (.ok a, after)
      | (.error failure, after) => (.error failure, after.record .error .logging) := by
  unfold stage runOn
  rw [ExceptT.run_tryCatch, StateT.run_bind]
  rcases action.run.run world with ⟨_ | a, after⟩ <;> rfl

theorem runOn_stage_ok {action : Job α} {world after : World} {a : α}
    (h : action.runOn world = (.ok a, after)) : (stage action).runOn world = (.ok a, after) := by
  rw [runOn_stage, h]

theorem runOn_stage_error {action : Job α} {world after : World} {failure : Failure}
    (h : action.runOn world = (.error failure, after)) :
    (stage action).runOn world = (.error failure, after.record .error .logging) := by
  rw [runOn_stage, h]

theorem runOn_stage_congr {action other : Job α} {world : World}
    (h : action.runOn world = other.runOn world) :
    (stage action).runOn world = (stage other).runOn world := by
  rw [runOn_stage, runOn_stage, h]

/-- A stage that succeeds does what its action does. -/
theorem runOn_stage_eq_ok {action : Job α} {world after : World} {a : α}
    (h : (stage action).runOn world = (.ok a, after)) : action.runOn world = (.ok a, after) := by
  rw [runOn_stage] at h
  rcases hrun : action.runOn world with ⟨failure | b, middle⟩
  · rw [hrun] at h
    cases h
  · rw [hrun] at h
    exact h

/-- A stage gives what its action gives. -/
theorem runOn_stage_fst (action : Job α) (world : World) :
    ((stage action).runOn world).1 = (action.runOn world).1 := by
  rw [runOn_stage]
  rcases action.runOn world with ⟨_ | a, after⟩ <;> rfl

theorem stage_moves {R : World → World → Prop} [IsPreorder World R] {action : Job α}
    (h : action.Moves R) (hquiet : ∀ {world after : World}, world.Quiet after → R world after) :
    (stage action).Moves R := by
  intro world
  have hafter := h world
  rw [runOn_stage]
  rcases hrun : action.runOn world with ⟨_ | a, after⟩
  · rw [hrun] at hafter
    exact trans_of R hafter (hquiet ((World.Quiet.refl after).record _ _))
  · rw [hrun] at hafter
    exact hafter

/-! ## Resolving -/

theorem mergeDocuments_moves (table : MappingTable) (documents : List Path) :
    (MappingTable.mergeDocuments MappingDocument.load table documents).Moves World.Quiet := by
  induction documents generalizing table with
  | nil => exact .pure table
  | cons path rest ih =>
    refine (Answers.moves fun _ => MappingDocument.load_answers path).bind fun document => ?_
    rcases table.merge path document with ⟨_ | conflict, next⟩
    · exact ih next
    · exact .throw _

theorem resolve_moves (sourceRoot : Path) (documents : List Path) (urns : List String) :
    (resolve MappingDocument.load sourceRoot documents urns).Moves World.Quiet := by
  unfold resolve
  by_cases h : documents = []
  · rw [if_pos h]
    exact .throw _
  · rw [if_neg h]
    exact (mergeDocuments_moves .empty documents).bind fun table => .mk_pure _

namespace Tool

variable (tool : Tool)

theorem resolve_moves (configPath : Path) (sources : List Path) (workspace : Path) :
    (tool.resolve configPath sources workspace).Moves World.Quiet := by
  refine (stage_moves (Answers.moves fun _ => LoadedConfig.load_answers configPath) id).bind
    fun config => (stage_moves (Pipewright.resolve_moves _ _ _) id).bind fun packages => ?_
  have hdone : ∀ pipeline : ResolvedPipeline,
      (do Job.log .info .resolution; return pipeline : Job ResolvedPipeline).Moves World.Quiet :=
    fun pipeline => (Job.log_moves _ _).bind fun _ => .pure pipeline
  cases config.config.urns.isEmpty with
  | true => exact hdone _
  | false => exact (Job.log_moves _ _).bind fun _ => hdone _

/-! ## Fetching -/

/-- The fetcher that a project is made with, if packages are fetched at all. -/
def activeFetcher (options : CreateOptions) : Option (Fetcher World) :=
  if options.getPackages then
    some (tool.fetcher.getD (goFetcher tool.host (tool.toolchain options.workspace)))
  else none

theorem fetchEach_moves (fetcher : Fetcher World) (update : Bool) (packages : List Package) :
    (fetchEach (noted fetcher) update packages).Moves (Fetched (some fetcher)) := by
  induction packages with
  | nil => exact .pure ()
  | cons package rest ih =>
    refine Moves.bind (fun world => ?_) fun _ => ih
    have hnoted : Fetched (some fetcher) world _ :=
      .idle ((World.Quiet.refl world).note (.fetch package.uri package.revision update))
    exact .call hnoted rfl (.refl _)

theorem fetchAll_moves (fetcher : Fetcher World) (update : Bool) (pins : Pins)
    (packages : List Package) :
    (fetchAll (noted fetcher) update pins packages).Moves (Fetched (some fetcher)) :=
  (fetchEach_moves fetcher update _).bind fun _ => .pure _

theorem fetch_moves {options : CreateOptions} (h : options.getPackages = true)
    (packages : List Package) :
    (tool.fetch options packages).Moves (Fetched (tool.activeFetcher options)) := by
  unfold activeFetcher
  rw [if_pos h]
  exact (fetchAll_moves _ _ _ _).bind fun packages =>
    ((Job.log_moves _ _).fetched _).bind fun _ => .pure packages

/-- Gathering leaves the disk to the fetcher, whether it succeeds or not. -/
theorem gather_moves (configPath : Path) (options : CreateOptions) :
    (tool.gather configPath options).Moves (Fetched (tool.activeFetcher options)) := by
  have hvalidate : (stage (ExceptT.mk (pure options.validate))).Moves
      (Fetched (tool.activeFetcher options)) := stage_moves (.mk_pure _) .idle
  refine hvalidate.bind fun _ => ((tool.resolve_moves _ _ _).fetched _).bind fun pipeline => ?_
  cases h : options.getPackages with
  | true => exact (stage_moves (tool.fetch_moves h _) .idle).bind fun packages => .pure _
  | false => exact .pure _

end Tool

end Pipewright
