import Pipewright.Pipeline.Config
import Pipewright.Proofs.Json.Records

set_option autoImplicit false

/-! # Reading actors and pools

`Json.IsActor` says of a value that it is the object of an actor, and `Json.urn?` is the URN that
stands in it. A value that can only be read by name (`Json.IsNamed`) is read as an actor if and
only if it is the object of one (`Actor.decode_succeeds`), and the actor has this URN.

The members of a pool are those of its own actor and the one of the actor that it embeds. The
latter is read where it stands, the others are set aside (`Pool.collect_ofMembers`), so the two
actors are read as if each had an object for itself (`Pool.decode_object`). -/

namespace Pipewright

open Json

/-! ## Actors as values -/

namespace Json

/-- The text that a string holds. -/
def text? : Json → Option String
  | .string text => some text
  | _ => none

/-- The URN that the object of an actor states. -/
def urn? (entry : Json) : Option String := (entry.member? "urn").bind text?

/-- What a pool embeds at a key; null embeds nothing. -/
def embedded? (key : String) (pool : Json) : Option Json :=
  (pool.member? key).filter (· ≠ .null)

/-- The object of an actor: its URN is a text, and so is its name, if it has one. -/
structure IsActor (entry : Json) : Prop where
  object : entry.IsObject
  urn : ∃ urn ∈ entry.member? "urn", urn.IsText
  name : ∀ name ∈ entry.member? "name", name.IsText

instance (entry : Json) : Decidable entry.IsActor :=
  decidable_of_iff (entry.IsObject ∧ (∃ urn ∈ entry.member? "urn", urn.IsText) ∧
      ∀ name ∈ entry.member? "name", name.IsText)
    ⟨fun ⟨hobject, hurn, hname⟩ => ⟨hobject, hurn, hname⟩, fun h => ⟨h.object, h.urn, h.name⟩⟩

/-- A value that can only be read by name: it is no array, repeats no keys, and the carrier has
    room for it. -/
structure IsNamed (carrier : Carrier) (json : Json) : Prop where
  notArray : ¬ json.IsArray
  keysOnce : json.KeysOnce
  room : carrier.Admits json.depth

end Json

/-! ## Actors -/

namespace Actor

variable {carrier : Carrier}

/-- A part of the draft is changed by its own slot only, if each of the other slots leaves it. -/
theorem confines {β : Type} {name : String} {part : Draft → β}
    (hname : "name" ≠ name → ∀ a draft, part { draft with name := some a } = part draft)
    (hurn : "urn" ≠ name → ∀ a draft, part { draft with urn := some a } = part draft)
    (hoptions : "options" ≠ name → ∀ a draft, part { draft with options := some a } = part draft) :
    Record.Confines slots name part := by
  intro slot hslot hne
  simp only [slots, List.mem_cons, List.not_mem_nil, or_false] at hslot
  rcases hslot with rfl | rfl | rfl
  · exact Slot.keeps_of_fill rfl (hname hne)
  · exact Slot.keeps_of_fill rfl (hurn hne)
  · exact Slot.keeps_of_fill rfl (hoptions hne)

theorem slots_apart : Record.Apart slots where
  names := by decide
  fills := by
    intro slot hslot
    simp only [slots, List.mem_cons, List.not_mem_nil, or_false] at hslot
    rcases hslot with rfl | rfl | rfl
    · exact confines (absurd rfl) (fun _ _ _ => rfl) (fun _ _ _ => rfl)
    · exact confines (fun _ _ _ => rfl) (absurd rfl) (fun _ _ _ => rfl)
    · exact confines (fun _ _ _ => rfl) (fun _ _ _ => rfl) (absurd rfl)

theorem reads_name : Record.Reads slots "name" (·.name) Decoder.text where
  slot := ⟨_, List.mem_cons_self, rfl, _, rfl, fun _ _ => rfl⟩
  confined := confines (absurd rfl) (fun _ _ _ => rfl) (fun _ _ _ => rfl)

theorem reads_urn : Record.Reads slots "urn" (·.urn) Decoder.text where
  slot := ⟨_, List.mem_cons_of_mem _ List.mem_cons_self, rfl, _, rfl, fun _ _ => rfl⟩
  confined := confines (fun _ _ _ => rfl) (absurd rfl) (fun _ _ _ => rfl)

theorem reads_options : Record.Reads slots "options" (·.options) Decoder.json where
  slot := ⟨_, List.mem_cons_of_mem _ (List.mem_cons_of_mem _ List.mem_cons_self), rfl, _, rfl,
    fun _ _ => rfl⟩
  confined := confines (fun _ _ _ => rfl) (fun _ _ _ => rfl) (absurd rfl)

/-- An actor, read from the members of its object. -/
def ofMembers (carrier : Carrier) (members : List (String × Json)) : Except Fault Actor :=
  Record.fillByName slots carrier (Form.ofMembers members) record.empty >>= finish

theorem finish_ok {draft : Draft} {actor : Actor} (h : finish draft = .ok actor) :
    draft.urn = some actor.urn := by
  cases hurn : draft.urn with
  | none =>
    rw [finish, hurn] at h
    cases h
  | some urn =>
    rw [finish, hurn] at h
    cases h
    rfl

theorem finish_succeeds {draft : Draft} (h : draft.urn.isSome) :
    ∃ actor, finish draft = .ok actor := by
  cases hurn : draft.urn with
  | none =>
    rw [hurn] at h
    cases h
  | some urn =>
    rw [finish, hurn]
    exact ⟨_, rfl⟩

theorem urn_of_ofMembers {members : List (String × Json)} (hkeys : (members.map (·.1)).Nodup)
    {actor : Actor} (h : ofMembers carrier members = .ok actor) :
    (Json.object members).member? "urn" = some (.string actor.urn) := by
  obtain ⟨draft, hdraft, hfinish⟩ := Except.bind_ok_iff.mp h
  have hpart := reads_urn.part slots_apart.names hkeys rfl hdraft
  rw [finish_ok hfinish] at hpart
  rw [member?, members?, Option.bind_some]
  cases hget : Dictionary.get? "urn" members with
  | none =>
    rw [hget] at hpart
    cases hpart
  | some json =>
    rw [hget] at hpart
    cases hpart with
    | some htext => rw [Decoder.text_ofJson_iff.mp htext]

/-- The slots take texts for a name and a URN, and anything for options. -/
theorem slots_fill_iff {members : List (String × Json)}
    (hroom : carrier.Admits (depthMembers members)) :
    (∀ slot ∈ slots, ∀ json, Dictionary.get? slot.name members = some json →
        ∃ put, slot.fill carrier (Form.ofJson json) = .ok put) ↔
      (∀ name ∈ Dictionary.get? "name" members, name.IsText) ∧
      ∀ urn ∈ Dictionary.get? "urn" members, urn.IsText := by
  have hoptions : ∀ json, Dictionary.get? "options" members = some json →
      ∃ kept, decodeJson (Form.ofJson json) carrier = .ok kept := fun json hjson =>
    ⟨_, decodeJson_ofJson json
      (hroom.mono (depth_le_depthMembers (Dictionary.mem_of_get? hjson)))⟩
  simp only [slots, List.forall_mem_cons, Except.map_ok_iff, Decoder.text_ofJson_iff, Decoder.json]
  constructor
  · rintro ⟨hname, hurn, -⟩
    constructor
    · intro json hjson
      obtain ⟨-, text, htext, -⟩ := hname json hjson
      exact ⟨text, htext⟩
    · intro json hjson
      obtain ⟨-, text, htext, -⟩ := hurn json hjson
      exact ⟨text, htext⟩
  · rintro ⟨hname, hurn⟩
    refine ⟨fun json hjson => ?_, fun json hjson => ?_, fun json hjson => ?_, nofun⟩
    · obtain ⟨text, htext⟩ := hname json hjson
      exact ⟨_, text, htext, rfl⟩
    · obtain ⟨text, htext⟩ := hurn json hjson
      exact ⟨_, text, htext, rfl⟩
    · obtain ⟨kept, hkept⟩ := hoptions json hjson
      exact ⟨_, kept, hkept, rfl⟩

/-- Members are read as an actor if and only if they are those of one. -/
theorem ofMembers_succeeds {members : List (String × Json)} (hkeys : (members.map (·.1)).Nodup)
    (hroom : carrier.Admits (depthMembers members)) :
    (∃ actor, ofMembers carrier members = .ok actor) ↔ (Json.object members).IsActor := by
  have hempty : ∀ slot ∈ slots, slot.name ∈ members.map (·.1) →
      slot.isFilled record.empty = false := by
    intro slot hslot _
    simp only [slots, List.mem_cons, List.not_mem_nil, or_false] at hslot
    rcases hslot with rfl | rfl | rfl <;> rfl
  have hfills := Record.fillByName_succeeds carrier slots_apart hkeys hempty
  rw [slots_fill_iff hroom] at hfills
  constructor
  · rintro ⟨actor, h⟩
    obtain ⟨draft, hdraft, -⟩ := Except.bind_ok_iff.mp h
    exact ⟨⟨members, rfl⟩, ⟨_, urn_of_ofMembers hkeys h, actor.urn, rfl⟩,
      (hfills.mp ⟨draft, hdraft⟩).1⟩
  · rintro ⟨-, ⟨urn, hurn, htext⟩, hname⟩
    change Dictionary.get? "urn" members = some urn at hurn
    obtain ⟨draft, hdraft⟩ := hfills.mpr ⟨hname, fun json hjson => by
      rw [hurn] at hjson
      exact Option.some.inj hjson ▸ htext⟩
    have hpart := reads_urn.part slots_apart.names hkeys rfl hdraft
    rw [hurn] at hpart
    have hsome : draft.urn.isSome := by
      cases hdrafted : draft.urn with
      | none =>
        rw [hdrafted] at hpart
        cases hpart
      | some text => rfl
    obtain ⟨actor, hactor⟩ := finish_succeeds hsome
    exact ⟨actor, Except.bind_ok_iff.mpr ⟨draft, hdraft, hactor⟩⟩

theorem decode_object {members : List (String × Json)}
    (hnamed : (Json.object members).IsNamed carrier) :
    (members.map (·.1)).Nodup ∧ carrier.inside.Admits (depthMembers members) ∧
      decode carrier (Form.ofJson (.object members)) = ofMembers carrier.inside members := by
  obtain ⟨-, hkeys, hroom⟩ := hnamed
  rw [depth] at hroom
  exact ⟨hkeys.nodup, hroom.inside, Record.decode_object record hroom⟩

/-- A value is read as an actor if and only if it is the object of one. -/
theorem decode_succeeds {entry : Json} (hnamed : entry.IsNamed carrier) :
    (∃ actor, decode carrier (Form.ofJson entry) = .ok actor) ↔ entry.IsActor := by
  by_cases hobject : entry.IsObject
  · obtain ⟨members, rfl⟩ := hobject
    obtain ⟨hkeys, hroom, hdecode⟩ := decode_object hnamed
    rw [hdecode]
    exact ofMembers_succeeds hkeys hroom
  · constructor
    · rintro ⟨actor, h⟩
      exact absurd (Record.object_of_decode hnamed.notArray h) hobject
    · intro h
      exact absurd h.object hobject

theorem urn?_of_decode {entry : Json} (hnamed : entry.IsNamed carrier) {actor : Actor}
    (h : decode carrier (Form.ofJson entry) = .ok actor) : entry.urn? = some actor.urn := by
  obtain ⟨members, rfl⟩ := Record.object_of_decode hnamed.notArray h
  obtain ⟨hkeys, -, hdecode⟩ := decode_object hnamed
  rw [hdecode] at h
  rw [urn?, urn_of_ofMembers hkeys h]
  rfl

end Actor

/-! ## Pools -/

namespace Pool

variable {kind : PoolKind} {carrier : Carrier}

/-- The members of a pool that are not its embedded actor. -/
def others (kind : PoolKind) (members : List (String × Json)) : List (String × Json) :=
  members.filter (·.1 ≠ kind.memberKey)

theorem others_of_absent {members : List (String × Json)}
    (habsent : kind.memberKey ∉ members.map (·.1)) : others kind members = members := by
  refine List.filter_eq_self.mpr fun member hmember => ?_
  have hne : member.1 ≠ kind.memberKey := fun h => habsent (h ▸ List.mem_map_of_mem hmember)
  simpa using hne

theorem collect_member (value : Json) (rest : List (String × Json)) :
    collect kind carrier (Form.ofMembers ((kind.memberKey, value) :: rest)) none =
      Decoder.optional Actor.decode carrier (Form.ofJson value) >>= fun embedded =>
        collect kind carrier (Form.ofMembers rest) (some embedded) := by
  simp only [Form.ofMembers, collect, Token.sound, bind, Except.bind]
  rfl

theorem collect_other {key : String} {value : Json} (hkey : key ≠ kind.memberKey)
    (hroom : carrier.Admits value.depth) (rest : List (String × Json))
    (member : Option (Option Actor)) :
    collect kind carrier (Form.ofMembers ((key, value) :: rest)) member =
      (collect kind carrier (Form.ofMembers rest) member).map fun result =>
        (result.1, (.sound key, Form.ofJson value) :: result.2) := by
  simp only [Form.ofMembers, collect, Token.sound, bind, Except.bind, if_neg hkey,
    decodeJson_ofJson value hroom]
  cases collect kind carrier (Form.ofMembers rest) member <;> rfl

/-- When the embedded actor has been read, all other members are set aside. -/
theorem collect_of_absent {members : List (String × Json)}
    (habsent : kind.memberKey ∉ members.map (·.1))
    (hroom : carrier.Admits (depthMembers members)) (member : Option (Option Actor)) :
    collect kind carrier (Form.ofMembers members) member =
      .ok (member, Form.ofMembers members) := by
  induction members with
  | nil => rfl
  | cons first rest ih =>
    obtain ⟨key, value⟩ := first
    rw [List.map_cons, List.mem_cons, not_or] at habsent
    rw [depthMembers] at hroom
    rw [collect_other (Ne.symm habsent.1) (hroom.mono (Nat.le_max_left _ _)),
      ih habsent.2 (hroom.mono (Nat.le_max_right _ _))]
    rfl

/-- Reads the member that is to be the embedded actor, if there is one. -/
def readMember (carrier : Carrier) : Option Json → Except Fault (Option (Option Actor))
  | none => .ok none
  | some json => (Decoder.optional Actor.decode carrier (Form.ofJson json)).map some

/-- The embedded actor is read from the member of its key, wherever that stands. -/
theorem collect_ofMembers {members : List (String × Json)} (hkeys : (members.map (·.1)).Nodup)
    (hroom : carrier.Admits (depthMembers members)) :
    collect kind carrier (Form.ofMembers members) none =
      (readMember carrier (Dictionary.get? kind.memberKey members)).map fun member =>
        (member, Form.ofMembers (others kind members)) := by
  induction members with
  | nil => rfl
  | cons first rest ih =>
    obtain ⟨key, value⟩ := first
    rw [List.map_cons, List.nodup_cons] at hkeys
    rw [depthMembers] at hroom
    have hrest := hroom.mono (Nat.le_max_right value.depth _)
    by_cases hkey : key = kind.memberKey
    · -- no other member has this key, so nothing is left to be dropped
      subst hkey
      have hothers : others kind ((kind.memberKey, value) :: rest) = rest := by
        rw [others, List.filter_cons_of_neg (by simp)]
        exact others_of_absent hkeys.1
      rw [collect_member, hothers, Dictionary.get?, if_pos rfl, readMember]
      cases Decoder.optional Actor.decode carrier (Form.ofJson value) with
      | error fault => rfl
      | ok embedded => exact collect_of_absent hkeys.1 hrest (some embedded)
    · have hothers : others kind ((key, value) :: rest) = (key, value) :: others kind rest :=
        List.filter_cons_of_pos (by simpa using hkey)
      rw [collect_other hkey (hroom.mono (Nat.le_max_left _ _)), ih hkeys.2 hrest, hothers,
        Dictionary.get?, if_neg hkey]
      cases readMember carrier (Dictionary.get? kind.memberKey rest) <;> rfl

/-- Reads the embedded actor, if there is one. -/
def readEmbedded (carrier : Carrier) : Option Json → Except Fault (Option Actor)
  | none => .ok none
  | some json => (Actor.decode carrier (Form.ofJson json)).map some

theorem readEmbedded_succeeds {embedded : Option Json}
    (hnamed : ∀ entry ∈ embedded, entry.IsNamed carrier) :
    (∃ member, readEmbedded carrier embedded = .ok member) ↔
      ∀ entry ∈ embedded, entry.IsActor := by
  cases embedded with
  | none => simp [readEmbedded]
  | some entry =>
    simp only [readEmbedded, Except.map_ok_iff, Option.mem_some_iff, forall_eq',
      ← Actor.decode_succeeds (hnamed entry rfl)]
    constructor
    · rintro ⟨_, actor, h, -⟩
      exact ⟨actor, h⟩
    · rintro ⟨actor, h⟩
      exact ⟨_, actor, h, rfl⟩

theorem urns_of_readEmbedded {embedded : Option Json}
    (hnamed : ∀ entry ∈ embedded, entry.IsNamed carrier) {member : Option Actor}
    (h : readEmbedded carrier embedded = .ok member) :
    embedded.toList.map urn? = member.toList.map fun actor => some actor.urn := by
  cases embedded with
  | none =>
    cases h
    rfl
  | some entry =>
    obtain ⟨actor, hactor, rfl⟩ := Except.map_ok_iff.mp h
    simp [Actor.urn?_of_decode (hnamed entry rfl) hactor]

theorem readMember_getD (pool : Json) :
    (readMember carrier (pool.member? kind.memberKey)).map (·.getD none) =
      readEmbedded carrier (pool.embedded? kind.memberKey) := by
  rw [embedded?]
  cases hmember : pool.member? kind.memberKey with
  | none => rfl
  | some json =>
    by_cases hnull : json = .null
    · subst hnull
      rfl
    · rw [Option.filter_some_pos (by simpa using hnull), readMember, readEmbedded,
        Decoder.optional_ofJson hnull]
      cases Actor.decode carrier (Form.ofJson json) <;> rfl

theorem member?_others {key : String} (hkey : key ≠ kind.memberKey)
    (members : List (String × Json)) :
    (Json.object (others kind members)).member? key = (Json.object members).member? key :=
  Dictionary.get?_filter members hkey

theorem isActor_others {members : List (String × Json)} :
    (Json.object (others kind members)).IsActor ↔ (Json.object members).IsActor := by
  have hurn : (Json.object (others kind members)).member? "urn" =
      (Json.object members).member? "urn" := member?_others (by cases kind <;> decide) members
  have hname : (Json.object (others kind members)).member? "name" =
      (Json.object members).member? "name" := member?_others (by cases kind <;> decide) members
  constructor
  · rintro ⟨-, htext, hoptional⟩
    rw [hurn] at htext
    rw [hname] at hoptional
    exact ⟨⟨members, rfl⟩, htext, hoptional⟩
  · rintro ⟨-, htext, hoptional⟩
    rw [← hurn] at htext
    rw [← hname] at hoptional
    exact ⟨⟨others kind members, rfl⟩, htext, hoptional⟩

theorem nodup_others {members : List (String × Json)} (hkeys : (members.map (·.1)).Nodup) :
    ((others kind members).map (·.1)).Nodup :=
  hkeys.sublist (List.filter_sublist.map _)

/-- A pool is read from an object: the embedded actor, and the pool's own one from the rest. -/
theorem decode_object {members : List (String × Json)} (hkeys : (members.map (·.1)).Nodup)
    (hroom : carrier.Admits (Json.object members).depth) :
    decode kind carrier (Form.ofJson (.object members)) =
      readEmbedded carrier.inside ((Json.object members).embedded? kind.memberKey) >>= fun member =>
        Actor.ofMembers .buffer (others kind members) >>= fun actor => .ok { actor, member } := by
  rw [depth] at hroom
  have hmember : (Json.object members).member? kind.memberKey =
      Dictionary.get? kind.memberKey members := rfl
  rw [← readMember_getD, hmember]
  -- the embedded actor is read before the pool's own, so its faults come first
  simp only [Form.ofJson, decode, hroom.enter, bind, Except.bind,
    collect_ofMembers hkeys hroom.inside]
  cases readMember carrier.inside (Dictionary.get? kind.memberKey members) with
  | error fault => rfl
  | ok member =>
    simp only [Except.map, Actor.ofMembers, bind, Except.bind, MembersEnd.afterLast]
    cases Record.fillByName Actor.slots .buffer (Form.ofMembers (others kind members))
      Actor.record.empty <;> rfl

theorem object_of_decode {json : Json} {pool : Pool}
    (h : decode kind carrier (Form.ofJson json) = .ok pool) : json.IsObject := by
  cases json with
  | object members => exact ⟨members, rfl⟩
  | _ => exact absurd h Decoder.mismatch_ne_ok

/-- What a pool embeds is read by name as the pool itself is, unless it is an array. -/
theorem embedded_isNamed {pool : Json} (hnamed : pool.IsNamed carrier)
    (hobject : pool.IsObject)
    (harray : ∀ entry ∈ pool.embedded? kind.memberKey, ¬ entry.IsArray) :
    ∀ entry ∈ pool.embedded? kind.memberKey, entry.IsNamed carrier.inside := by
  intro entry h
  have hmember : pool.member? kind.memberKey = some entry := Option.eq_some_of_filter_eq_some h
  have hlt := depth_lt_of_member? hmember
  obtain ⟨members, rfl⟩ := hobject
  have hroom := hnamed.room
  rw [depth] at hroom hlt
  exact ⟨harray entry h, hnamed.keysOnce.of_member? hmember,
    hroom.inside.mono (Nat.le_of_lt_succ hlt)⟩

/-- A value is read as a pool if and only if it is the object of an actor, and so is what it
    embeds. -/
theorem decode_succeeds {pool : Json} (hnamed : pool.IsNamed carrier)
    (harray : ∀ entry ∈ pool.embedded? kind.memberKey, ¬ entry.IsArray) :
    (∃ result, decode kind carrier (Form.ofJson pool) = .ok result) ↔
      ∀ entry ∈ pool :: (pool.embedded? kind.memberKey).toList, entry.IsActor := by
  by_cases hobject : pool.IsObject
  · have hembedded := readEmbedded_succeeds (embedded_isNamed hnamed hobject harray)
    obtain ⟨members, rfl⟩ := hobject
    have hown : (∃ actor, Actor.ofMembers .buffer (others kind members) = .ok actor) ↔
        (Json.object (others kind members)).IsActor :=
      Actor.ofMembers_succeeds (nodup_others hnamed.keysOnce.nodup) trivial
    rw [isActor_others] at hown
    simp only [decode_object hnamed.keysOnce.nodup hnamed.room, Except.bind_ok_iff,
      List.forall_mem_cons, ← hown]
    constructor
    · rintro ⟨_, member, hmember, actor, hactor, -⟩
      exact ⟨⟨actor, hactor⟩, fun entry h =>
        hembedded.mp ⟨member, hmember⟩ entry (Option.mem_toList.mp h)⟩
    · rintro ⟨⟨actor, hactor⟩, hactors⟩
      obtain ⟨member, hmember⟩ :=
        hembedded.mpr fun entry h => hactors entry (Option.mem_toList.mpr h)
      exact ⟨_, member, hmember, actor, hactor, rfl⟩
  · constructor
    · rintro ⟨result, h⟩
      exact absurd (object_of_decode h) hobject
    · intro h
      exact absurd (h pool List.mem_cons_self).object hobject

/-- A pool has the URNs of its object and of what it embeds. -/
theorem urns_of_decode {pool : Json} (hnamed : pool.IsNamed carrier)
    (harray : ∀ entry ∈ pool.embedded? kind.memberKey, ¬ entry.IsArray) {result : Pool}
    (h : decode kind carrier (Form.ofJson pool) = .ok result) :
    (pool :: (pool.embedded? kind.memberKey).toList).map urn? =
      (PipelineConfig.poolUrns result).map some := by
  have hobject := object_of_decode h
  have hembedded := embedded_isNamed hnamed hobject harray
  obtain ⟨members, rfl⟩ := hobject
  simp only [decode_object hnamed.keysOnce.nodup hnamed.room, Except.bind_ok_iff] at h
  obtain ⟨member, hmember, actor, hactor, hresult⟩ := h
  cases hresult
  have hurn := Actor.urn_of_ofMembers (nodup_others hnamed.keysOnce.nodup) hactor
  rw [member?_others (by cases kind <;> decide)] at hurn
  rw [List.map_cons, urns_of_readEmbedded hembedded hmember, urn?, hurn]
  simp [PipelineConfig.poolUrns, text?]

end Pool

end Pipewright
