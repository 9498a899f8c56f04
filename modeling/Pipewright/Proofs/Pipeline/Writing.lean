import Pipewright.Proofs.Json.Restoring
import Pipewright.Proofs.Pipeline.Reading

set_option autoImplicit false

/-! # Configurations as they are written

An actor is read back from any members that state its name, its URN and its options
(`Actor.ofMembers_restored`), so it is read back from its own object as well as from the members
that stand beside the embedded actor of a pool: none of these has the key of the embedded one.
Lists of actors and pools are read back item by item (`PipelineConfig.toJson_restores`).

The options of an actor are a value that was read, so they are sorted (`PipelineConfig.IsSorted`);
what can be read always is (`PipelineConfig.decode_yields`). -/

namespace Pipewright

open Json

/-! ## Actors -/

namespace Actor

/-- The options that are written; null is left out. -/
def options? (actor : Actor) : Option Json :=
  if actor.options = .null then none else some actor.options

theorem getD_options? (actor : Actor) : actor.options?.getD .null = actor.options := by
  unfold options?
  split
  · next h => exact h.symm
  · rfl

theorem eq_of_mem_options? {actor : Actor} {options : Json} (h : options ∈ actor.options?) :
    options = actor.options := by
  unfold options? at h
  split at h
  · cases h
  · exact (Option.some.inj h).symm

theorem members_eq (actor : Actor) : actor.members =
    [("name", .string actor.name), ("urn", .string actor.urn)] ++
      actor.options?.toList.map fun options => ("options", options) := by
  unfold members options?
  split <;> rfl

theorem mem_keys_members {actor : Actor} {key : String} (h : key ∈ actor.members.map (·.1)) :
    key ∈ ["name", "urn", "options"] := by
  rw [members_eq] at h
  cases hoptions : actor.options? <;> grind

theorem nodup_members (actor : Actor) : (actor.members.map (·.1)).Nodup := by
  rw [members_eq]
  cases actor.options? <;> simp

theorem get?_options (actor : Actor) :
    Dictionary.get? "options" actor.members = actor.options? := by
  rw [members_eq]
  cases actor.options? <;> simp [Dictionary.get?]

/-- Members that state what the actor states are read as the actor. -/
theorem ofMembers_restored {actor : Actor} (hsorted : actor.options.IsSorted) {carrier : Carrier}
    {members : List (String × Json)} (hkeys : (members.map (·.1)).Nodup)
    (hroom : carrier.Admits (depthMembers members))
    (hagree : ∀ key ∈ ["name", "urn", "options"],
      Dictionary.get? key members = Dictionary.get? key actor.members) :
    ofMembers carrier members = .ok actor := by
  have hname : Dictionary.get? "name" members = some (.string actor.name) :=
    hagree _ (by decide)
  have hurn : Dictionary.get? "urn" members = some (.string actor.urn) :=
    hagree _ (by decide)
  have hoptions : Dictionary.get? "options" members = actor.options? :=
    (hagree _ (by decide)).trans actor.get?_options
  have hactor : (Json.object members).IsActor :=
    ⟨⟨members, rfl⟩, ⟨_, hurn, actor.urn, rfl⟩, fun name h =>
      ⟨actor.name, Option.some.inj (h.symm.trans hname)⟩⟩
  obtain ⟨result, hresult⟩ := (ofMembers_succeeds hkeys hroom).mpr hactor
  obtain ⟨⟨name, urn, options⟩, hdraft, -⟩ := Except.bind_ok_iff.mp hresult
  -- each part of the draft is what the member of its key stands for
  have hdraftName : name = some actor.name :=
    reads_name.restored slots_apart.names hkeys hroom rfl hname
      (Decoder.text_restores _) hdraft
  have hdraftUrn : urn = some actor.urn :=
    reads_urn.restored slots_apart.names hkeys hroom rfl hurn
      (Decoder.text_restores _) hdraft
  have hdraftOptions : options = actor.options? := by
    cases hstated : actor.options? with
    | none =>
      exact reads_options.missing slots_apart.names hkeys rfl (hoptions.trans hstated) hdraft
    | some stated =>
      have hrestores := Decoder.json_restores (eq_of_mem_options? hstated ▸ hsorted)
      exact reads_options.restored slots_apart.names hkeys hroom rfl (hoptions.trans hstated)
        hrestores hdraft
  subst hdraftName hdraftUrn hdraftOptions
  rw [ofMembers, hdraft]
  change Except.ok (⟨actor.name, actor.urn, actor.options?.getD .null⟩ : Actor) = .ok actor
  rw [getD_options?]

theorem toJson_restores {actor : Actor} (hsorted : actor.options.IsSorted) :
    decode.Restores actor.toJson actor := by
  intro carrier hroom
  have hkeys := actor.nodup_members
  rw [toJson, Json.record, depth] at hroom
  rw [toJson, Json.record, decode, Record.decode_object record hroom]
  exact ofMembers_restored hsorted (Dictionary.isSorted_ofList _).nodup hroom.inside
    fun key _ => Dictionary.get?_ofList key hkeys

/-- The options that have been read are sorted. -/
def Draft.IsSorted (draft : Draft) : Prop := ∀ options ∈ draft.options, options.IsSorted

theorem slots_preserve : ∀ slot ∈ slots, slot.Preserves Draft.IsSorted := by
  intro slot hslot
  simp only [slots, List.mem_cons, List.not_mem_nil, or_false] at hslot
  rcases hslot with rfl | rfl | rfl
  · exact Slot.preserves rfl fun _ _ h => h
  · exact Slot.preserves rfl fun _ _ h => h
  · refine Slot.preserves_of_yields rfl Decoder.json_yields fun options hoptions _ _ => ?_
    rintro _ ⟨⟩
    exact hoptions

theorem finish_isSorted {draft : Draft} (hdraft : draft.IsSorted) {actor : Actor}
    (h : finish draft = .ok actor) : actor.options.IsSorted := by
  obtain ⟨urn, -, heq⟩ := Except.bind_ok_iff.mp h
  cases heq
  cases hoptions : draft.options with
  | none => trivial
  | some options => exact hdraft options hoptions

theorem decode_yields : decode.Yields (·.options.IsSorted) :=
  Record.decode_yields slots_preserve nofun fun _ hdraft _ h => finish_isSorted hdraft h

end Actor

/-! ## Pools -/

theorem PoolKind.memberKey_notMem (kind : PoolKind) :
    kind.memberKey ∉ ["name", "urn", "options"] := by
  cases kind <;> decide

namespace Pool

variable {kind : PoolKind} {pool : Pool}

/-- Both actors of the pool have sorted options. -/
structure IsSorted (pool : Pool) : Prop where
  actor : pool.actor.options.IsSorted
  member : ∀ member ∈ pool.member, member.options.IsSorted

/-- The members of a pool's object: those of its own actor, and the embedded one. -/
def members (kind : PoolKind) (pool : Pool) : List (String × Json) :=
  pool.actor.members ++ pool.member.toList.map fun member => (kind.memberKey, member.toJson)

theorem toJson_eq : pool.toJson kind = .record (pool.members kind) := by
  unfold toJson members
  cases pool.member <;> rfl

/-- The embedded actor does not take a key of the pool's own. -/
theorem nodup_members : ((pool.members kind).map (·.1)).Nodup := by
  rw [members, List.map_append, List.nodup_append]
  refine ⟨pool.actor.nodup_members, ?_, ?_⟩
  · cases pool.member <;> simp
  · rintro key hkey _ hother rfl
    have heq : key = kind.memberKey := by
      cases hmember : pool.member <;> simp_all
    exact kind.memberKey_notMem (heq ▸ Actor.mem_keys_members hkey)

theorem get?_own {key : String} (hkey : key ≠ kind.memberKey) :
    Dictionary.get? key (pool.members kind) = Dictionary.get? key pool.actor.members := by
  rw [members, Dictionary.get?_append]
  cases pool.member with
  | none => simp [Dictionary.get?]
  | some member => simp [Dictionary.get?, Ne.symm hkey]

theorem get?_memberKey : Dictionary.get? kind.memberKey (pool.members kind) =
    pool.member.map Actor.toJson := by
  have habsent : Dictionary.get? kind.memberKey pool.actor.members = none :=
    Dictionary.get?_eq_none_iff.mpr fun h => kind.memberKey_notMem (Actor.mem_keys_members h)
  rw [members, Dictionary.get?_append, habsent, Option.none_or]
  cases pool.member <;> simp [Dictionary.get?]

theorem toJson_restores (hsorted : pool.IsSorted) :
    (decode kind).Restores (pool.toJson kind) pool := by
  intro carrier hroom
  have hget := fun key => Dictionary.get?_ofList key (@nodup_members kind pool)
  have hkeys := (Dictionary.isSorted_ofList (pool.members kind)).nodup
  rw [toJson_eq, Json.record] at hroom ⊢
  rw [decode_object hkeys hroom]
  generalize Dictionary.ofList (pool.members kind) = written at hget hkeys hroom ⊢
  rw [depth] at hroom
  -- the embedded actor is read from the member of its key
  have hembedded : (Json.object written).embedded? kind.memberKey =
      pool.member.map Actor.toJson := by
    rw [embedded?, member?, members?, Option.bind_some, hget, get?_memberKey]
    cases pool.member <;> rfl
  have hmember : readEmbedded carrier.inside (pool.member.map Actor.toJson) =
      .ok pool.member := by
    cases hcase : pool.member with
    | none => rfl
    | some member =>
      have hwritten : Dictionary.get? kind.memberKey written = some member.toJson := by
        rw [hget, get?_memberKey, hcase]
        rfl
      have hdepth := depth_le_depthMembers (Dictionary.mem_of_get? hwritten)
      have hread := Actor.toJson_restores (hsorted.member member hcase) carrier.inside
        (hroom.inside.mono hdepth)
      rw [Option.map_some, readEmbedded, hread]
      rfl
  -- and the pool's own from the others
  have hown : Actor.ofMembers .buffer (others kind written) = .ok pool.actor := by
    refine Actor.ofMembers_restored hsorted.actor (nodup_others hkeys) trivial fun key hkey => ?_
    have hne : key ≠ kind.memberKey := fun h => kind.memberKey_notMem (h ▸ hkey)
    rw [others, Dictionary.get?_filter written hne, hget, get?_own hne]
  rw [hembedded, hmember]
  change (Actor.ofMembers .buffer (others kind written) >>= fun actor =>
    Except.ok (⟨actor, pool.member⟩ : Pool)) = .ok pool
  rw [hown]
  rfl

theorem collect_yields {carrier : Carrier} {forms : List (Token String × Form)}
    {member : Option (Option Actor)}
    {result : Option (Option Actor) × List (Token String × Form)}
    (hmember : ∀ embedded ∈ member, ∀ actor ∈ embedded, actor.options.IsSorted)
    (h : collect kind carrier forms member = .ok result) :
    ∀ embedded ∈ result.1, ∀ actor ∈ embedded, actor.options.IsSorted := by
  induction forms generalizing member result with
  | nil =>
    cases h
    exact hmember
  | cons form rest ih =>
    simp only [collect, Except.bind_ok_iff] at h
    obtain ⟨name, -, h⟩ := h
    split at h
    · split at h
      · cases h
      · obtain ⟨embedded, hembedded, hrest⟩ := Except.bind_ok_iff.mp h
        refine ih ?_ hrest
        rintro _ ⟨⟩
        exact Decoder.optional_yields Actor.decode_yields _ _ _ hembedded
    · simp only [Except.bind_ok_iff] at h
      obtain ⟨_, -, inner, hinner, heq⟩ := h
      cases heq
      have hrest := ih hmember hinner
      exact hrest

theorem decode_yields : (decode kind).Yields IsSorted := by
  intro carrier form pool h
  cases form with
  | object forms close =>
    simp only [decode, Except.bind_ok_iff] at h
    obtain ⟨_, -, collected, hcollected, _, -, draft, hdraft, actor, hactor, heq⟩ := h
    cases heq
    have hmember := collect_yields (by rintro _ ⟨⟩) hcollected
    have hsorted := Record.fillByName_preserves Actor.slots_preserve (by rintro _ ⟨⟩) hdraft
    refine ⟨Actor.finish_isSorted hsorted hactor, fun member h => ?_⟩
    cases hembedded : collected.1 with
    | none => simp [hembedded] at h
    | some embedded => exact hmember embedded hembedded member (by simpa [hembedded] using h)
  | _ => exact absurd h Decoder.mismatch_ne_ok

end Pool

/-! ## Configurations -/

namespace PipelineConfig

variable {config : PipelineConfig}

/-- All options in the configuration are sorted. -/
structure IsSorted (config : PipelineConfig) : Prop where
  actors : ∀ role, ∀ actor ∈ config.actors role, actor.options.IsSorted
  pools : ∀ kind, ∀ pool ∈ config.pools kind, pool.IsSorted

/-- The lists of the configuration under their keys. -/
def members (config : PipelineConfig) : List (String × Json) :=
  Role.all.map (fun role => (role.key, .array ((config.actors role).map Actor.toJson))) ++
    [PoolKind.reader, .writer].map fun kind =>
      (kind.key, .array ((config.pools kind).map (Pool.toJson kind)))

theorem nodup_members : (config.members.map (·.1)).Nodup := by
  have hkeys : config.members.map (·.1) = record.slots.map (·.name) := rfl
  rw [hkeys]
  exact names_nodup

theorem get?_role (role : Role) : Dictionary.get? role.key config.members =
    some (.array ((config.actors role).map Actor.toJson)) := by
  cases role <;> rfl

theorem get?_kind (kind : PoolKind) : Dictionary.get? kind.key config.members =
    some (.array ((config.pools kind).map (Pool.toJson kind))) := by
  cases kind <;> rfl

theorem actors_restore (hsorted : config.IsSorted) (role : Role) :
    (Decoder.list Actor.decode).Restores (.array ((config.actors role).map Actor.toJson))
      (config.actors role) :=
  Decoder.list_restores fun actor hactor =>
    Actor.toJson_restores (hsorted.actors role actor hactor)

theorem pools_restore (hsorted : config.IsSorted) (kind : PoolKind) :
    (Decoder.list (Pool.decode kind)).Restores
      (.array ((config.pools kind).map (Pool.toJson kind))) (config.pools kind) :=
  Decoder.list_restores fun pool hpool => Pool.toJson_restores (hsorted.pools kind pool hpool)

theorem toJson_restores (hsorted : config.IsSorted) : decode.Restores config.toJson config := by
  intro carrier hroom
  have hget := fun key => Dictionary.get?_ofList key (@nodup_members config)
  have hkeys := (Dictionary.isSorted_ofList config.members).nodup
  have hwritten : config.toJson = .object (Dictionary.ofList config.members) := rfl
  rw [hwritten] at hroom ⊢
  generalize Dictionary.ofList config.members = written at hget hkeys hroom ⊢
  rw [depth] at hroom
  rw [decode, Record.decode_object record hroom]
  have hempty : ∀ slot ∈ record.slots, slot.name ∈ written.map (·.1) →
      slot.isFilled record.empty = false := by
    intro slot hslot _
    rcases mem_slots.mp hslot with ⟨role, rfl⟩ | ⟨kind, rfl⟩ <;> rfl
  have hroomOf : ∀ {key json}, Dictionary.get? key written = some json →
      carrier.inside.Admits json.depth := fun h =>
    hroom.inside.mono (depth_le_depthMembers (Dictionary.mem_of_get? h))
  obtain ⟨draft, hdraft⟩ := (Record.fillByName_succeeds carrier.inside slots_apart hkeys
      hempty).mpr <| by
    intro slot hslot json hjson
    have hroom := hroomOf hjson
    rw [hget] at hjson
    rcases mem_slots.mp hslot with ⟨role, rfl⟩ | ⟨kind, rfl⟩
    · cases (get?_role role).symm.trans hjson
      exact ⟨_, Except.map_ok_iff.mpr ⟨_, actors_restore hsorted role _ hroom, rfl⟩⟩
    · cases (get?_kind kind).symm.trans hjson
      exact ⟨_, Except.map_ok_iff.mpr ⟨_, pools_restore hsorted kind _ hroom, rfl⟩⟩
  have hactors : ∀ role, draft.actors role = some (config.actors role) := fun role =>
    (reads_actors role).restored names_nodup hkeys hroom.inside rfl
      ((hget role.key).trans (get?_role role)) (actors_restore hsorted role) hdraft
  have hpools : ∀ kind, draft.pools kind = some (config.pools kind) := fun kind =>
    (reads_pools kind).restored names_nodup hkeys hroom.inside rfl
      ((hget kind.key).trans (get?_kind kind)) (pools_restore hsorted kind) hdraft
  rw [hdraft]
  have hresult : record.finish draft = .ok config := by
    simp only [record, hactors, hpools, Option.getD_some]
  exact hresult

/-- The lists that have been read have sorted options. -/
structure Draft.IsSorted (draft : Draft) : Prop where
  actors : ∀ role, ∀ actors ∈ draft.actors role, ∀ actor ∈ actors, actor.options.IsSorted
  pools : ∀ kind, ∀ pools ∈ draft.pools kind, ∀ pool ∈ pools, pool.IsSorted

theorem slots_preserve : ∀ slot ∈ record.slots, slot.Preserves Draft.IsSorted := by
  intro slot hslot
  rcases mem_slots.mp hslot with ⟨role, rfl⟩ | ⟨kind, rfl⟩
  · refine Slot.preserves_of_yields rfl (Decoder.list_yields Actor.decode_yields)
      fun actors hactors draft hdraft => ⟨fun other list hlist => ?_, hdraft.pools⟩
    simp only [Draft.setActors] at hlist
    split at hlist
    · cases hlist
      exact hactors
    · exact hdraft.actors other list hlist
  · refine Slot.preserves_of_yields rfl (Decoder.list_yields Pool.decode_yields)
      fun pools hpools draft hdraft => ⟨hdraft.actors, fun other list hlist => ?_⟩
    simp only [Draft.setPools] at hlist
    split at hlist
    · cases hlist
      exact hpools
    · exact hdraft.pools other list hlist

theorem forall_mem_getD {α : Type} {P : α → Prop} {read : Option (List α)}
    (h : ∀ list ∈ read, ∀ a ∈ list, P a) : ∀ a ∈ read.getD [], P a := by
  cases read with
  | none => exact fun a ha => nomatch ha
  | some list => exact h list rfl

theorem decode_yields : decode.Yields IsSorted := by
  refine Record.decode_yields slots_preserve ⟨nofun, nofun⟩ fun draft hdraft config hconfig => ?_
  cases hconfig
  exact ⟨fun role => forall_mem_getD (hdraft.actors role),
    fun kind => forall_mem_getD (hdraft.pools kind)⟩

end PipelineConfig

end Pipewright
