import Pipewright.Json.Decoder

set_option autoImplicit false

/-! # Actors and pools

An `Actor` is a named part of a pipeline; its URN says what implements it, and its options are
carried along unread. A `Pool` is an actor that may have another one embedded as its member.

* `Actor.decode` and `Actor.toJson` read and write actors; an actor without options has no
  `options` key.
* `Pool.decode` and `Pool.toJson` read and write pools: the actor's own keys stand beside the key
  of the member. -/

namespace Pipewright

open Json

/-- An object with these members. -/
def Json.record (pairs : List (String × Json)) : Json := .object (Dictionary.ofList pairs)

/-- A named part of a pipeline. -/
structure Actor where
  name : String
  urn : String
  options : Json
  deriving DecidableEq, Repr

namespace Actor

/-- The parts of an actor that have been read. -/
structure Draft where
  name : Option String
  urn : Option String
  options : Option Json

/-- The keys of an actor. -/
def slots : List (Slot Draft) := [
  { name := "name", isFilled := (·.name.isSome)
    fill := fun carrier form =>
      (Decoder.text carrier form).map fun name draft => { draft with name := some name } },
  { name := "urn", isFilled := (·.urn.isSome), isRequired := true
    fill := fun carrier form =>
      (Decoder.text carrier form).map fun urn draft => { draft with urn := some urn } },
  { name := "options", isFilled := (·.options.isSome)
    fill := fun carrier form =>
      (Decoder.json carrier form).map fun options draft => { draft with options := some options } }]

/-- An actor has no name and no options unless it says so; the URN may not be missing. -/
def finish (draft : Draft) : Except Fault Actor := do
  let urn ← required "urn" draft.urn
  return { name := draft.name.getD "", urn, options := draft.options.getD .null }

def record : Record Draft Actor :=
  { title := "struct ActorConfig", slots, empty := ⟨none, none, none⟩, finish }

def decode : Decoder Actor := record.decode

/-- The members of an actor's object. -/
def members (actor : Actor) : List (String × Json) :=
  [("name", .string actor.name), ("urn", .string actor.urn)] ++
    (if actor.options = .null then [] else [("options", actor.options)])

def toJson (actor : Actor) : Json := .record actor.members

end Actor

/-- An actor that may have another one embedded. -/
structure Pool where
  actor : Actor
  member : Option Actor
  deriving DecidableEq, Repr

/-- The two kinds of pools. -/
inductive PoolKind where
  | reader
  | writer
  deriving DecidableEq, Repr

namespace PoolKind

/-- The key of the pools in a configuration. -/
def key : PoolKind → String
  | .reader => "reader_pools"
  | .writer => "writer_pools"

/-- The key of the member in a pool. -/
def memberKey : PoolKind → String
  | .reader => "reader"
  | .writer => "writer"

/-- The name of such a pool in reports. -/
def title : PoolKind → String
  | .reader => "struct ReaderPoolConfig"
  | .writer => "struct WriterPoolConfig"

end PoolKind

namespace Pool

/-- Reads the members of a pool: the embedded actor, and the other members set aside. -/
def collect (kind : PoolKind) (carrier : Carrier) :
    List (Token String × Form) → Option (Option Actor) →
      Except Fault (Option (Option Actor) × List (Token String × Form))
  | [], member => .ok (member, [])
  | (key, value) :: rest, member => do
    let name ← key.kept
    if name = kind.memberKey then
      if member.isSome then .error (.duplicateField kind.memberKey)
      else
        let embedded ← Decoder.optional Actor.decode carrier value
        collect kind carrier rest (some embedded)
    else
      let _ ← decodeJson value carrier
      let (member, others) ← collect kind carrier rest member
      return (member, (key, value) :: others)

/-- Reads a pool. All its members are kept, known or not, and then the actor is read from those
    that were set aside. -/
def decode (kind : PoolKind) : Decoder Pool := fun carrier form =>
  match form with
  | .object members close => do
    let carrier ← carrier.enter
    let (member, others) ← collect kind carrier members none
    close.afterLast
    let draft ← Record.fillByName Actor.slots .buffer others Actor.record.empty
    let actor ← Actor.finish draft
    return { actor, member := member.getD none }
  | _ => Decoder.mismatch kind.title form

def toJson (kind : PoolKind) (pool : Pool) : Json :=
  .record (pool.actor.members ++
    match pool.member with
    | some member => [(kind.memberKey, member.toJson)]
    | none => [])

end Pool

end Pipewright
