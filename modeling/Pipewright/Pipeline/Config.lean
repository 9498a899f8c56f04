import Pipewright.Pipeline.Actor

set_option autoImplicit false

/-! # Pipeline configurations

A `PipelineConfig` lists the actors of a pipeline by role, and its reader and writer pools.

* `PipelineConfig.decode` and `PipelineConfig.toJson` read and write configurations; each key may
  be missing.
* `PipelineConfig.urns` lists the URNs that a configuration refers to, with repetitions: the roles
  in their order, then each reader pool followed by its member, then the writer pools. -/

namespace Pipewright

open Json

/-- The roles of actors, in the order in which their URNs are listed. -/
inductive Role where
  | inputTranslator
  | outputTranslator
  | inbox
  | outbox
  | receiver
  | sender
  | router
  | component
  | labelMatcher
  | urnRewriter
  deriving DecidableEq, Repr

namespace Role

def all : List Role :=
  [.inputTranslator, .outputTranslator, .inbox, .outbox, .receiver, .sender, .router, .component,
    .labelMatcher, .urnRewriter]

/-- The key of a role's actors in a configuration. -/
def key : Role → String
  | .inputTranslator => "input_translators"
  | .outputTranslator => "output_translators"
  | .inbox => "inboxes"
  | .outbox => "outboxes"
  | .receiver => "receivers"
  | .sender => "senders"
  | .router => "routers"
  | .component => "components"
  | .labelMatcher => "label_matchers"
  | .urnRewriter => "urn_rewriters"

theorem mem_all (role : Role) : role ∈ all := by
  cases role <;> decide

end Role

/-- The actors of a pipeline by role, and its pools. -/
structure PipelineConfig where
  actors : Role → List Actor
  pools : PoolKind → List Pool

namespace PipelineConfig

/-- The configuration without actors. -/
def empty : PipelineConfig := ⟨fun _ => [], fun _ => []⟩

/-- The lists that have been read. -/
structure Draft where
  actors : Role → Option (List Actor)
  pools : PoolKind → Option (List Pool)

/-- The draft with the actors of a role. -/
def Draft.setActors (role : Role) (actors : List Actor) (draft : Draft) : Draft :=
  { draft with actors := fun r => if r = role then some actors else draft.actors r }

/-- The draft with the pools of a kind. -/
def Draft.setPools (kind : PoolKind) (pools : List Pool) (draft : Draft) : Draft :=
  { draft with pools := fun k => if k = kind then some pools else draft.pools k }

def roleSlot (role : Role) : Slot Draft :=
  { name := role.key, isFilled := fun draft => (draft.actors role).isSome
    fill := fun carrier form =>
      (Decoder.list Actor.decode carrier form).map (Draft.setActors role) }

def poolSlot (kind : PoolKind) : Slot Draft :=
  { name := kind.key, isFilled := fun draft => (draft.pools kind).isSome
    fill := fun carrier form =>
      (Decoder.list (Pool.decode kind) carrier form).map (Draft.setPools kind) }

def record : Record Draft PipelineConfig :=
  { title := "struct SpiritConfig"
    slots := Role.all.map roleSlot ++ [poolSlot .reader, poolSlot .writer]
    empty := ⟨fun _ => none, fun _ => none⟩
    finish := fun draft =>
      .ok ⟨fun role => (draft.actors role).getD [], fun kind => (draft.pools kind).getD []⟩ }

def decode : Decoder PipelineConfig := record.decode

def toJson (config : PipelineConfig) : Json :=
  .record (Role.all.map (fun role =>
      (role.key, Json.array ((config.actors role).map Actor.toJson))) ++
    [PoolKind.reader, PoolKind.writer].map (fun kind =>
      (kind.key, Json.array ((config.pools kind).map (Pool.toJson kind)))))

/-- The URNs of a pool: its own, then its member's. -/
def poolUrns (pool : Pool) : List String :=
  pool.actor.urn :: pool.member.toList.map (·.urn)

/-- The URNs that a configuration refers to. -/
def urns (config : PipelineConfig) : List String :=
  Role.all.flatMap (fun role => (config.actors role).map (·.urn)) ++
    [PoolKind.reader, PoolKind.writer].flatMap (fun kind => (config.pools kind).flatMap poolUrns)

end PipelineConfig

end Pipewright
