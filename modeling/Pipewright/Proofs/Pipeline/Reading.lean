import Pipewright.Proofs.Pipeline.Actors

set_option autoImplicit false

/-! # What configurations state

A pipeline configuration is an object of arrays of actors. `Json.actorEntries` walks through it
and lists the values at which an actor is expected, by the keys of the documents and in the order
in which URNs are listed: the entries of each role, then each pool followed by the actor that it
embeds. `Json.IsPipeline` says that all of them are actors, and that nothing else stands where an
array is expected.

A value is read as a configuration if and only if it is one, and the URNs of the configuration are
those that its entries state, one for each (`read_pipeline`, and `read_pipeline_text` for texts).
Records may also be read from arrays, by position; all statements here leave these out. -/

namespace Pipewright

open Json

/-! ## Pipelines as values -/

namespace Json

/-- The keys of the roles. -/
def roleKeys : List String :=
  ["input_translators", "output_translators", "inboxes", "outboxes", "receivers", "senders",
    "routers", "components", "label_matchers", "urn_rewriters"]

/-- The keys of the pools, each with the key of the actor that such a pool embeds. -/
def poolKeys : List (String × String) :=
  [("reader_pools", "reader"), ("writer_pools", "writer")]

/-- The pools at a key, each followed by the actor that it embeds. -/
def poolEntries (json : Json) (keys : String × String) : List Json :=
  (json.itemsAt keys.1).flatMap fun pool => pool :: (pool.embedded? keys.2).toList

/-- The values that an actor is expected at. -/
def actorEntries (json : Json) : List Json :=
  roleKeys.flatMap (fun key => json.itemsAt key) ++ poolKeys.flatMap json.poolEntries

/-- The object of a configuration. -/
structure IsPipeline (json : Json) : Prop where
  object : json.IsObject
  lists : ∀ key ∈ roleKeys ++ poolKeys.map (·.1), ∀ list ∈ json.member? key, list.IsArray
  actors : ∀ entry ∈ json.actorEntries, entry.IsActor

instance (json : Json) : Decidable json.IsPipeline :=
  decidable_of_iff (json.IsObject ∧
      (∀ key ∈ roleKeys ++ poolKeys.map (·.1), ∀ list ∈ json.member? key, list.IsArray) ∧
      ∀ entry ∈ json.actorEntries, entry.IsActor)
    ⟨fun ⟨hobject, hlists, hactors⟩ => ⟨hobject, hlists, hactors⟩,
      fun h => ⟨h.object, h.lists, h.actors⟩⟩

end Json

/-! ## Configurations -/

namespace PipelineConfig

variable {carrier : Carrier}

theorem mem_slots {slot : Slot Draft} :
    slot ∈ record.slots ↔ (∃ role, slot = roleSlot role) ∨ ∃ kind, slot = poolSlot kind := by
  simp only [record, List.mem_append, List.mem_map, List.mem_cons, List.not_mem_nil, or_false]
  constructor
  · rintro (⟨role, -, rfl⟩ | rfl | rfl)
    · exact .inl ⟨role, rfl⟩
    · exact .inr ⟨.reader, rfl⟩
    · exact .inr ⟨.writer, rfl⟩
  · rintro (⟨role, rfl⟩ | ⟨kind, rfl⟩)
    · exact .inl ⟨role, role.mem_all, rfl⟩
    · cases kind with
      | reader => exact .inr (.inl rfl)
      | writer => exact .inr (.inr rfl)

/-- A part of the draft is changed by its own slot only, if each of the other slots leaves it. -/
theorem confines {β : Type} {name : String} {part : Draft → β}
    (hactors : ∀ role, role.key ≠ name → ∀ actors draft,
      part (Draft.setActors role actors draft) = part draft)
    (hpools : ∀ kind, kind.key ≠ name → ∀ pools draft,
      part (Draft.setPools kind pools draft) = part draft) :
    Record.Confines record.slots name part := by
  intro slot hslot hne
  rcases mem_slots.mp hslot with ⟨role, rfl⟩ | ⟨kind, rfl⟩
  · exact Slot.keeps_of_fill rfl (hactors role hne)
  · exact Slot.keeps_of_fill rfl (hpools kind hne)

theorem names_nodup : (record.slots.map (·.name)).Nodup := by decide

theorem confines_actors (role : Role) :
    Record.Confines record.slots role.key (·.actors role) := by
  refine confines (fun other hother actors draft => ?_) fun _ _ _ _ => rfl
  have hne : role ≠ other := fun h => hother (h ▸ rfl)
  simp only [Draft.setActors, if_neg hne]

theorem confines_pools (kind : PoolKind) :
    Record.Confines record.slots kind.key (·.pools kind) := by
  refine confines (fun _ _ _ _ => rfl) fun other hother pools draft => ?_
  have hne : kind ≠ other := fun h => hother (h ▸ rfl)
  simp only [Draft.setPools, if_neg hne]

theorem slots_apart : Record.Apart record.slots where
  names := names_nodup
  fills := by
    intro slot hslot other hother hne carrier form put hput draft
    rcases mem_slots.mp hslot with ⟨role, rfl⟩ | ⟨kind, rfl⟩
    · exact congrArg Option.isSome
        (confines_actors role other hother hne carrier form put hput draft)
    · exact congrArg Option.isSome
        (confines_pools kind other hother hne carrier form put hput draft)

theorem reads_actors (role : Role) : Record.Reads record.slots role.key (·.actors role)
    (Decoder.list Actor.decode) where
  slot := ⟨roleSlot role, mem_slots.mpr (.inl ⟨role, rfl⟩), rfl, Draft.setActors role, rfl,
    fun _ _ => by simp [Draft.setActors]⟩
  confined := confines_actors role

theorem reads_pools (kind : PoolKind) : Record.Reads record.slots kind.key (·.pools kind)
    (Decoder.list (Pool.decode kind)) where
  slot := ⟨poolSlot kind, mem_slots.mpr (.inr ⟨kind, rfl⟩), rfl, Draft.setPools kind, rfl,
    fun _ _ => by simp [Draft.setPools]⟩
  confined := confines_pools kind

theorem roleKeys_eq : roleKeys = Role.all.map Role.key := rfl

theorem poolKeys_eq :
    poolKeys = [PoolKind.reader, .writer].map fun kind => (kind.key, kind.memberKey) := rfl

theorem forall_listKeys {P : String → Prop} :
    (∀ key ∈ roleKeys ++ poolKeys.map (·.1), P key) ↔
      (∀ role : Role, P role.key) ∧ ∀ kind : PoolKind, P kind.key := by
  simp only [roleKeys_eq, poolKeys_eq, List.forall_mem_append, List.forall_mem_map,
    List.forall_mem_cons]
  constructor
  · rintro ⟨hroles, hreader, hwriter, -⟩
    exact ⟨fun role => hroles role role.mem_all, fun kind => by cases kind <;> assumption⟩
  · rintro ⟨hroles, hkinds⟩
    exact ⟨fun role _ => hroles role, hkinds .reader, hkinds .writer, nofun⟩

theorem forall_actorEntries {P : Json → Prop} {json : Json} :
    (∀ entry ∈ json.actorEntries, P entry) ↔
      (∀ role : Role, ∀ entry ∈ json.itemsAt role.key, P entry) ∧
      ∀ kind : PoolKind, ∀ pool ∈ json.itemsAt kind.key,
        ∀ entry ∈ pool :: (pool.embedded? kind.memberKey).toList, P entry := by
  simp only [actorEntries, poolEntries, roleKeys_eq, poolKeys_eq, List.forall_mem_append,
    List.flatMap_map, List.forall_mem_flatMap]
  constructor
  · rintro ⟨hroles, hkinds⟩
    exact ⟨fun role => hroles role role.mem_all, fun kind => hkinds kind (by cases kind <;> simp)⟩
  · rintro ⟨hroles, hkinds⟩
    exact ⟨fun role _ => hroles role, fun kind _ => hkinds kind⟩

/-- A value that is read by name, and so are the actors in it. -/
structure IsNamedThroughout (carrier : Carrier) (json : Json) : Prop extends
    json.IsNamed carrier where
  entries : ∀ entry ∈ json.actorEntries, ¬ entry.IsArray

namespace IsNamedThroughout

variable {json : Json}

/-- The carrier has room for the lists. -/
theorem room_list (h : IsNamedThroughout carrier json) {key : String} {list : Json}
    (hlist : json.member? key = some list) : carrier.inside.Admits list.depth :=
  (h.room.mono (depth_lt_of_member? hlist)).inside

theorem of_itemsAt (h : IsNamedThroughout carrier json) {key : String} {item : Json}
    (hitem : item ∈ json.itemsAt key) (harray : ¬ item.IsArray) :
    item.IsNamed carrier.inside.inside :=
  ⟨harray, h.keysOnce.of_itemsAt hitem,
    (h.room.mono (depth_lt_of_itemsAt hitem)).inside.inside⟩

theorem role (h : IsNamedThroughout carrier json) {role : Role} {entry : Json}
    (hentry : entry ∈ json.itemsAt role.key) : entry.IsNamed carrier.inside.inside :=
  h.of_itemsAt hentry ((forall_actorEntries.mp h.entries).1 role entry hentry)

theorem pool (h : IsNamedThroughout carrier json) {kind : PoolKind} {pool : Json}
    (hpool : pool ∈ json.itemsAt kind.key) : pool.IsNamed carrier.inside.inside :=
  h.of_itemsAt hpool
    ((forall_actorEntries.mp h.entries).2 kind pool hpool pool List.mem_cons_self)

theorem embedded (h : IsNamedThroughout carrier json) {kind : PoolKind} {pool : Json}
    (hpool : pool ∈ json.itemsAt kind.key) :
    ∀ entry ∈ pool.embedded? kind.memberKey, ¬ entry.IsArray := fun entry hentry =>
  (forall_actorEntries.mp h.entries).2 kind pool hpool entry
    (List.mem_cons_of_mem _ (Option.mem_toList.mpr hentry))

end IsNamedThroughout

/-- A slot whose decoder reads lists takes a member if and only if it is an array of items that can
    be read. -/
theorem slot_fills_iff {α : Type} {decode : Decoder α} {json : Json} (slot : Slot Draft)
    {put : List α → Draft → Draft}
    (hfill : slot.fill = fun carrier form => (Decoder.list decode carrier form).map put)
    (h : IsNamedThroughout carrier json) :
    (∀ list, json.member? slot.name = some list →
        ∃ put, slot.fill carrier.inside (Form.ofJson list) = .ok put) ↔
      (∀ list, json.member? slot.name = some list → list.IsArray) ∧
        ∀ item ∈ json.itemsAt slot.name,
          ∃ a, decode carrier.inside.inside (Form.ofJson item) = .ok a := by
  rw [← Decoder.list_succeeds fun list hlist => h.room_list hlist, hfill]
  simp only [Except.map_ok_iff]
  constructor
  · intro htakes list hlist
    obtain ⟨_, as, has, -⟩ := htakes list hlist
    exact ⟨as, has⟩
  · intro htakes list hlist
    obtain ⟨as, has⟩ := htakes list hlist
    exact ⟨_, as, has, rfl⟩

/-- The slots take the members of an object if and only if it is that of a configuration. -/
theorem slots_fill_iff {json : Json} (hobject : json.IsObject)
    (h : IsNamedThroughout carrier json) :
    (∀ slot ∈ record.slots, ∀ list, json.member? slot.name = some list →
        ∃ put, slot.fill carrier.inside (Form.ofJson list) = .ok put) ↔ json.IsPipeline := by
  have hrole := fun role => slot_fills_iff (roleSlot role) rfl h
  have hkind := fun kind => slot_fills_iff (poolSlot kind) rfl h
  constructor
  · intro hfills
    have hroles := fun role => (hrole role).mp (hfills _ (mem_slots.mpr (.inl ⟨role, rfl⟩)))
    have hkinds := fun kind => (hkind kind).mp (hfills _ (mem_slots.mpr (.inr ⟨kind, rfl⟩)))
    refine ⟨hobject, forall_listKeys.mpr ⟨fun role => (hroles role).1, fun kind => (hkinds kind).1⟩,
      forall_actorEntries.mpr ⟨fun role entry hentry => ?_, fun kind pool hpool => ?_⟩⟩
    · exact (Actor.decode_succeeds (h.role hentry)).mp ((hroles role).2 entry hentry)
    · exact (Pool.decode_succeeds (h.pool hpool) (h.embedded hpool)).mp
        ((hkinds kind).2 pool hpool)
  · rintro ⟨-, hlists, hactors⟩ slot hslot
    obtain ⟨hroleLists, hkindLists⟩ := forall_listKeys.mp hlists
    obtain ⟨hroleActors, hkindActors⟩ := forall_actorEntries.mp hactors
    rcases mem_slots.mp hslot with ⟨role, rfl⟩ | ⟨kind, rfl⟩
    · exact (hrole role).mpr ⟨hroleLists role, fun entry hentry =>
        (Actor.decode_succeeds (h.role hentry)).mpr (hroleActors role entry hentry)⟩
    · exact (hkind kind).mpr ⟨hkindLists kind, fun pool hpool =>
        (Pool.decode_succeeds (h.pool hpool) (h.embedded hpool)).mpr
          (hkindActors kind pool hpool)⟩

theorem decode_object {members : List (String × Json)}
    (hnamed : (Json.object members).IsNamed carrier) :
    decode carrier (Form.ofJson (.object members)) =
      Record.fillByName record.slots carrier.inside (Form.ofMembers members) record.empty >>=
        record.finish := by
  have hroom := hnamed.room
  rw [depth] at hroom
  exact Record.decode_object record hroom

/-- A value is read as a configuration if and only if it is one. -/
theorem decode_succeeds {json : Json} (h : IsNamedThroughout carrier json) :
    (∃ config, decode carrier (Form.ofJson json) = .ok config) ↔ json.IsPipeline := by
  by_cases hobject : json.IsObject
  · rw [← slots_fill_iff hobject h]
    obtain ⟨members, rfl⟩ := hobject
    have hempty : ∀ slot ∈ record.slots, slot.name ∈ members.map (·.1) →
        slot.isFilled record.empty = false := by
      intro slot hslot _
      rcases mem_slots.mp hslot with ⟨role, rfl⟩ | ⟨kind, rfl⟩ <;> rfl
    refine Iff.trans ?_
      (Record.fillByName_succeeds carrier.inside slots_apart h.keysOnce.nodup hempty)
    rw [decode_object h.toIsNamed]
    simp only [Except.bind_ok_iff]
    constructor
    · rintro ⟨config, draft, hdraft, -⟩
      exact ⟨draft, hdraft⟩
    · rintro ⟨draft, hdraft⟩
      exact ⟨_, draft, hdraft, rfl⟩
  · constructor
    · rintro ⟨config, hconfig⟩
      exact absurd (Record.object_of_decode h.notArray hconfig) hobject
    · intro hpipeline
      exact absurd hpipeline.object hobject

/-- A configuration has the URNs that its entries state. -/
theorem urns_of_decode {json : Json} (h : IsNamedThroughout carrier json)
    {config : PipelineConfig} (hconfig : decode carrier (Form.ofJson json) = .ok config) :
    json.actorEntries.map urn? = config.urns.map some := by
  obtain ⟨members, rfl⟩ := Record.object_of_decode h.notArray hconfig
  rw [decode_object h.toIsNamed] at hconfig
  obtain ⟨draft, hdraft, hfinish⟩ := Except.bind_ok_iff.mp hconfig
  cases hfinish
  have hrole : ∀ role : Role, ((Json.object members).itemsAt role.key).map urn? =
      ((draft.actors role).getD []).map fun actor => some actor.urn := by
    intro role
    have hpart := (reads_actors role).part names_nodup h.keysOnce.nodup rfl hdraft
    exact map_eq_map_of_forall₂
      (Decoder.forall₂_itemsAt (fun list hlist => h.room_list hlist) hpart)
      fun entry hentry actor hactor => Actor.urn?_of_decode (h.role hentry) hactor
  have hkind : ∀ kind : PoolKind,
      ((Json.object members).itemsAt kind.key).flatMap (fun pool =>
          (pool :: (pool.embedded? kind.memberKey).toList).map urn?) =
        ((draft.pools kind).getD []).flatMap fun pool => (poolUrns pool).map some := by
    intro kind
    have hpart := (reads_pools kind).part names_nodup h.keysOnce.nodup rfl hdraft
    -- pools give lists of URNs, which are equal one by one before they are joined
    rw [List.flatMap_def, List.flatMap_def]
    exact congrArg List.flatten <| map_eq_map_of_forall₂
      (Decoder.forall₂_itemsAt (fun list hlist => h.room_list hlist) hpart)
      fun pool hpool result hresult =>
        Pool.urns_of_decode (h.pool hpool) (h.embedded hpool) hresult
  simp only [actorEntries, poolEntries, roleKeys_eq, poolKeys_eq, urns, List.map_append,
    List.map_flatMap, List.flatMap_map, List.map_map, Function.comp_def, hrole, hkind]

end PipelineConfig

/-- A text that holds a value and nothing else, nested no deeper than allowed, is read as a
    configuration if and only if the value is the object of one. -/
theorem read_pipeline_text (bytes : Bytes) (json : Json)
    (hbytes : Form.ofBytes bytes = ⟨Form.ofJson json, false⟩) (hdepth : json.depth ≤ nestingLimit)
    (hkeys : json.KeysOnce) (hroot : ¬ json.IsArray)
    (hentries : ∀ entry ∈ json.actorEntries, ¬ entry.IsArray) :
    ((∃ config, ofBytes? PipelineConfig.decode bytes = .ok config) ↔ json.IsPipeline) ∧
      ∀ config, ofBytes? PipelineConfig.decode bytes = .ok config →
        json.actorEntries.map urn? = config.urns.map some := by
  have h : PipelineConfig.IsNamedThroughout (.text nestingLimit) json :=
    ⟨⟨hroot, hkeys, hdepth⟩, hentries⟩
  have hdecode : ofBytes? PipelineConfig.decode bytes =
      PipelineConfig.decode (.text nestingLimit) (Form.ofJson json) := by
    simp only [ofBytes?, hbytes]
    cases PipelineConfig.decode (.text nestingLimit) (Form.ofJson json) <;> rfl
  rw [hdecode]
  exact ⟨PipelineConfig.decode_succeeds h, fun config => PipelineConfig.urns_of_decode h⟩

/-- **No actor is lost.** Take a value that repeats no keys, where neither the root nor any actor is
    an array. It is read as a configuration if and only if it is the object of one, whatever
    options and other members it has. The configuration then has the URNs that stand in the value,
    one for each actor: role by role, then each pool followed by what it embeds, with
    repetitions. -/
theorem read_pipeline (json : Json) (hkeys : json.KeysOnce) (hroot : ¬ json.IsArray)
    (hentries : ∀ entry ∈ json.actorEntries, ¬ entry.IsArray) :
    ((∃ config, ofJson? PipelineConfig.decode json = .ok config) ↔ json.IsPipeline) ∧
      ∀ config, ofJson? PipelineConfig.decode json = .ok config →
        json.actorEntries.map urn? = config.urns.map some := by
  have h : PipelineConfig.IsNamedThroughout .value json := ⟨⟨hroot, hkeys, trivial⟩, hentries⟩
  exact ⟨PipelineConfig.decode_succeeds h, fun config => PipelineConfig.urns_of_decode h⟩

/-- A small configuration. -/
def samplePipeline : Json := .object [
  ("comment", .array [.null]),
  ("writer_pools", .array [
    .object [("urn", .string "urn:writer-pool"), ("writer", .null), ("reader", .bool true)]]),
  ("reader_pools", .array [
    .object [
      ("reader", .object [("urn", .string "urn:reader"), ("options", .array [.ofNat 1, .null])]),
      ("name", .string "pool"), ("urn", .string "urn:reader-pool")]]),
  ("inboxes", .array [
    .object [("urn", .string "urn:box"), ("options", .object [("urn", .bool false)])],
    .object [("name", .string "again"), ("urn", .string "urn:box")]])]

theorem read_pipeline_sample : ∃ config,
    ofJson? PipelineConfig.decode samplePipeline = .ok config ∧
      config.urns = ["urn:box", "urn:box", "urn:reader-pool", "urn:reader", "urn:writer-pool"] := by
  have hkeys : samplePipeline.KeysOnce := by
    simp only [samplePipeline, KeysOnce, KeysOnceItems, KeysOnceMembers, ofNat, ofInt]
    decide
  have hroot : ¬ samplePipeline.IsArray := by decide
  have hentries : ∀ entry ∈ samplePipeline.actorEntries, ¬ entry.IsArray := by decide
  have hpipeline : samplePipeline.IsPipeline := by decide
  obtain ⟨hreads, hurns⟩ := read_pipeline samplePipeline hkeys hroot hentries
  obtain ⟨config, hconfig⟩ := hreads.mpr hpipeline
  refine ⟨config, hconfig, List.map_injective_iff.mpr (fun _ _ h => Option.some.inj h) ?_⟩
  rw [← hurns config hconfig]
  decide

end Pipewright
