import Mathlib.Data.List.Forall2
import Pipewright.Json.Decoder
import Pipewright.Proofs.Json.Sorted

set_option autoImplicit false

/-! # Reading the form of a value

The form of a value has no faults of its own. Everything in it can be passed over
(`skip_ofJson`), and where the carrier has room for it all is kept, with its members brought into
order (`decodeJson_ofJson`), so a decoder refuses it only for its shape. A list is read item by
item (`list_ofItems_iff`). -/

namespace Pipewright

theorem Except.bind_ok_iff {ε α β : Type} {first : Except ε α} {next : α → Except ε β} {b : β} :
    (first >>= next) = .ok b ↔ ∃ a, first = .ok a ∧ next a = .ok b := by
  cases first <;> simp [bind, Except.bind]

theorem Except.bind_error_iff {ε α β : Type} {first : Except ε α} {next : α → Except ε β} {e : ε} :
    (first >>= next) = .error e ↔ first = .error e ∨ ∃ a, first = .ok a ∧ next a = .error e := by
  cases first <;> simp [bind, Except.bind]

theorem Except.map_ok_iff {ε α β : Type} {first : Except ε α} {f : α → β} {b : β} :
    first.map f = .ok b ↔ ∃ a, first = .ok a ∧ f a = b := by
  cases first <;> simp [Except.map]

theorem Except.map_bind {ε α β γ : Type} (first : Except ε α) (next : α → Except ε β) (f : β → γ) :
    (first >>= next).map f = first >>= fun a => (next a).map f := by
  cases first <;> rfl

theorem Except.exists_eq_ok_of_toOption_map {ε α β : Type} {result : Except ε α} {f : α → β} {b : β}
    (h : result.toOption.map f = some b) : ∃ a, result = .ok a ∧ f a = b := by
  cases result with
  | error e => cases h
  | ok a => exact ⟨a, rfl, Option.some.inj h⟩

theorem exists_forall₂_iff {α β : Type} {R : α → β → Prop} {as : List α} :
    (∃ bs, List.Forall₂ R as bs) ↔ ∀ a ∈ as, ∃ b, R a b := by
  induction as with
  | nil => simp
  | cons a rest ih =>
    simp only [List.forall₂_cons_left_iff, List.forall_mem_cons, ← ih]
    constructor
    · rintro ⟨_, b, bs, hb, hbs, -⟩
      exact ⟨⟨b, hb⟩, bs, hbs⟩
    · rintro ⟨⟨b, hb⟩, bs, hbs⟩
      exact ⟨b :: bs, b, bs, hb, hbs, rfl⟩

theorem map_eq_map_of_forall₂ {α β γ : Type} {R : α → β → Prop} {f : α → γ} {g : β → γ}
    {as : List α} {bs : List β} (h : List.Forall₂ R as bs)
    (heq : ∀ a ∈ as, ∀ b, R a b → f a = g b) : as.map f = bs.map g := by
  induction h with
  | nil => rfl
  | cons hab _ ih =>
    rw [List.map_cons, List.map_cons, heq _ List.mem_cons_self _ hab,
      ih fun a ha => heq a (List.mem_cons_of_mem _ ha)]

namespace Json

/-! ## Room for a value -/

namespace Carrier

/-- So many containers can still be opened. -/
def Admits : Carrier → Nat → Prop
  | .text room, depth => depth ≤ room
  | .value, _ => True
  | .buffer, _ => True

theorem Admits.mono {carrier : Carrier} {depth smaller : Nat} (h : carrier.Admits depth)
    (hle : smaller ≤ depth) : carrier.Admits smaller := by
  cases carrier with
  | text room => exact Nat.le_trans hle h
  | value => trivial
  | buffer => trivial

/-- How the parts of an opened container are carried. -/
def inside : Carrier → Carrier
  | .text room => .text (room - 1)
  | .value => .value
  | .buffer => .buffer

theorem Admits.enter {carrier : Carrier} {depth : Nat} (h : carrier.Admits (depth + 1)) :
    carrier.enter = .ok carrier.inside := by
  cases carrier with
  | text room =>
    cases room with
    | zero => exact absurd h (by simp [Admits])
    | succ room => rfl
  | value => rfl
  | buffer => rfl

theorem Admits.inside {carrier : Carrier} {depth : Nat} (h : carrier.Admits (depth + 1)) :
    carrier.inside.Admits depth := by
  cases carrier with
  | text room => exact Nat.le_sub_one_of_lt h
  | value => trivial
  | buffer => trivial

end Carrier

/-! ## Nothing is broken -/

mutual

theorem skip_ofJson : ∀ json : Json, (Form.ofJson json).skip = .ok ()
  | .null | .bool _ | .number _ | .string _ => rfl
  | .array items => by
    simp only [Form.ofJson, Form.skip, skipItems_ofItems items]
    rfl
  | .object members => by
    simp only [Form.ofJson, Form.skip, skipMembers_ofMembers members]
    rfl

theorem skipItems_ofItems : ∀ items : List Json, skipItems (Form.ofItems items) = .ok ()
  | [] => rfl
  | json :: rest => by
    simp only [Form.ofItems, skipItems, skip_ofJson json, skipItems_ofItems rest]
    rfl

theorem skipMembers_ofMembers : ∀ members : List (String × Json),
    skipMembers (Form.ofMembers members) = .ok ()
  | [] => rfl
  | (_, json) :: rest => by
    simp only [Form.ofMembers, skipMembers, skip_ofJson json, skipMembers_ofMembers rest]
    rfl

end

mutual

theorem decodeJson_ofJson : ∀ (json : Json) {carrier : Carrier}, carrier.Admits json.depth →
    decodeJson (Form.ofJson json) carrier = .ok json.sorted
  | .null, _, _ | .bool _, _, _ | .number _, _, _ | .string _, _, _ => rfl
  | .array items, _, h => by
    rw [depth] at h
    rw [Form.ofJson, decodeJson, h.enter]
    simp only [bind, Except.bind, decodeItems_ofItems items h.inside]
    rfl
  | .object members, _, h => by
    rw [depth] at h
    rw [Form.ofJson, decodeJson, h.enter]
    simp only [bind, Except.bind, decodeMembers_ofMembers members h.inside]
    rfl

theorem decodeItems_ofItems : ∀ (items : List Json) {carrier : Carrier},
    carrier.Admits (depthItems items) →
      decodeItems (Form.ofItems items) carrier = .ok (sortedItems items)
  | [], _, _ => rfl
  | json :: rest, _, h => by
    rw [depthItems] at h
    rw [Form.ofItems, decodeItems, decodeJson_ofJson json (h.mono (Nat.le_max_left _ _)),
      decodeItems_ofItems rest (h.mono (Nat.le_max_right _ _))]
    rfl

theorem decodeMembers_ofMembers : ∀ (members : List (String × Json)) {carrier : Carrier},
    carrier.Admits (depthMembers members) →
      decodeMembers (Form.ofMembers members) carrier = .ok (sortedMembers members)
  | [], _, _ => rfl
  | (key, json) :: rest, _, h => by
    rw [depthMembers] at h
    simp only [Form.ofMembers, decodeMembers,
      decodeJson_ofJson json (h.mono (Nat.le_max_left _ _)),
      decodeMembers_ofMembers rest (h.mono (Nat.le_max_right _ _))]
    rfl

end

mutual

/-- What is kept is sorted, whatever stood in the form. -/
theorem isSorted_of_decodeJson : ∀ (form : Form) {carrier : Carrier} {json : Json},
    decodeJson form carrier = .ok json → json.IsSorted
  | .broken _, _, _, h => nomatch h
  | .null, _, _, h | .bool _, _, _, h => by
    cases h
    trivial
  | .number token, _, _, h => by
    obtain ⟨n, -, rfl⟩ := Except.map_ok_iff.mp h
    trivial
  | .string token, _, _, h => by
    obtain ⟨text, -, rfl⟩ := Except.map_ok_iff.mp h
    trivial
  | .array items close, _, _, h => by
    simp only [decodeJson, Except.bind_ok_iff] at h
    obtain ⟨_, -, kept, hkept, _, -, hjson⟩ := h
    cases hjson
    exact isSorted_of_decodeItems items hkept
  | .object members close, _, _, h => by
    simp only [decodeJson, Except.bind_ok_iff] at h
    obtain ⟨_, -, pairs, hpairs, _, -, hjson⟩ := h
    cases hjson
    exact ⟨Dictionary.isSorted_ofList pairs,
      isSortedMembers_ofList (isSorted_of_decodeMembers members hpairs)⟩

theorem isSorted_of_decodeItems : ∀ (forms : List Form) {carrier : Carrier} {items : List Json},
    decodeItems forms carrier = .ok items → IsSortedItems items
  | [], _, _, h => by
    cases h
    trivial
  | form :: rest, _, _, h => by
    simp only [decodeItems, Except.bind_ok_iff] at h
    obtain ⟨json, hjson, items, hitems, hcons⟩ := h
    cases hcons
    exact ⟨isSorted_of_decodeJson form hjson, isSorted_of_decodeItems rest hitems⟩

theorem isSorted_of_decodeMembers : ∀ (forms : List (Token String × Form)) {carrier : Carrier}
    {pairs : List (String × Json)}, decodeMembers forms carrier = .ok pairs →
      IsSortedMembers pairs
  | [], _, _, h => by
    cases h
    trivial
  | (key, form) :: rest, _, _, h => by
    simp only [decodeMembers, Except.bind_ok_iff] at h
    obtain ⟨_, -, json, hjson, pairs, hpairs, hcons⟩ := h
    cases hcons
    exact ⟨isSorted_of_decodeJson form hjson, isSorted_of_decodeMembers rest hpairs⟩

end

/-! ## Scalars, lists and options -/

namespace Decoder

variable {α : Type} {carrier : Carrier}

theorem mismatch_ne_ok {expected : String} {form : Form} {a : α} :
    mismatch expected form ≠ .ok a := by
  unfold mismatch
  cases form.found <;> exact fun h => nomatch h

theorem text_ofJson_iff {json : Json} {text : String} :
    Decoder.text carrier (Form.ofJson json) = .ok text ↔ json = .string text := by
  cases json with
  | string s => simp [Decoder.text, textAs, Form.ofJson, Token.sound]
  | _ => simp [Decoder.text, textAs, Form.ofJson, mismatch_ne_ok]

theorem optional_ofJson {decode : Decoder α} {json : Json} (h : json ≠ .null) :
    optional decode carrier (Form.ofJson json) =
      (decode carrier (Form.ofJson json)).map some := by
  cases json with
  | null => exact absurd rfl h
  | _ => rfl

theorem items_ofItems_iff {decode : Decoder α} {values : List Json} {list : List α} :
    items decode carrier (Form.ofItems values) = .ok list ↔
      List.Forall₂ (fun value a => decode carrier (Form.ofJson value) = .ok a) values list := by
  induction values generalizing list with
  | nil => simp [Form.ofItems, items, eq_comm]
  | cons value rest ih =>
    simp only [Form.ofItems, items, Except.bind_ok_iff, ih, List.forall₂_cons_left_iff]
    constructor
    · rintro ⟨a, ha, as, has, hlist⟩
      exact ⟨a, as, ha, has, (Except.ok.inj hlist).symm⟩
    · rintro ⟨a, as, ha, has, rfl⟩
      exact ⟨a, ha, as, has, rfl⟩

theorem list_ofItems_iff {decode : Decoder α} {values : List Json}
    (hroom : carrier.Admits (depthItems values + 1)) {list : List α} :
    Decoder.list decode carrier (Form.ofJson (.array values)) = .ok list ↔
      List.Forall₂ (fun value a => decode carrier.inside (Form.ofJson value) = .ok a)
        values list := by
  rw [← items_ofItems_iff]
  simp only [Form.ofJson, Decoder.list, hroom.enter, Except.bind_ok_iff]
  constructor
  · rintro ⟨_, hinner, as, has, _, -, hlist⟩
    cases hinner
    cases hlist
    exact has
  · intro has
    exact ⟨carrier.inside, rfl, list, has, (), rfl, rfl⟩

theorem isArray_of_list {decode : Decoder α} {json : Json} {list : List α}
    (h : Decoder.list decode carrier (Form.ofJson json) = .ok list) : json.IsArray := by
  cases json with
  | array values => exact ⟨values, rfl⟩
  | _ => exact absurd h mismatch_ne_ok

/-- A member is read as a list if and only if it is an array and each item can be read. -/
theorem list_succeeds {decode : Decoder α} {json : Json} {key : String}
    (hroom : ∀ list, json.member? key = some list → carrier.Admits list.depth) :
    (∀ list, json.member? key = some list →
        ∃ as, Decoder.list decode carrier (Form.ofJson list) = .ok as) ↔
      (∀ list, json.member? key = some list → list.IsArray) ∧
        ∀ item ∈ json.itemsAt key, ∃ a, decode carrier.inside (Form.ofJson item) = .ok a := by
  cases hmember : json.member? key with
  | none => simp [itemsAt, hmember]
  | some list =>
    constructor
    · intro h
      obtain ⟨as, has⟩ := h list rfl
      obtain ⟨values, rfl⟩ := isArray_of_list has
      rw [list_ofItems_iff (hroom _ hmember)] at has
      refine ⟨fun other hother => ?_, ?_⟩
      · cases hother
        exact ⟨values, rfl⟩
      · simp only [itemsAt, hmember]
        exact exists_forall₂_iff.mp ⟨as, has⟩
    · rintro ⟨harray, hitems⟩ other hother
      cases hother
      obtain ⟨values, rfl⟩ := harray list rfl
      simp only [itemsAt, hmember] at hitems
      obtain ⟨as, has⟩ := exists_forall₂_iff.mpr hitems
      exact ⟨as, (list_ofItems_iff (hroom _ hmember)).mpr has⟩

/-- What a member has been read as, item by item. -/
theorem forall₂_itemsAt {decode : Decoder α} {json : Json} {key : String}
    (hroom : ∀ list, json.member? key = some list → carrier.Admits list.depth)
    {read : Option (List α)}
    (h : Option.Rel (fun list as => Decoder.list decode carrier (Form.ofJson list) = .ok as)
      (json.member? key) read) :
    List.Forall₂ (fun item a => decode carrier.inside (Form.ofJson item) = .ok a)
      (json.itemsAt key) (read.getD []) := by
  cases hmember : json.member? key with
  | none =>
    rw [hmember] at h
    cases h
    simp [itemsAt, hmember]
  | some list =>
    rw [hmember] at h
    cases h with
    | some has =>
      obtain ⟨values, rfl⟩ := isArray_of_list has
      simp only [itemsAt, hmember]
      exact (list_ofItems_iff (hroom _ hmember)).mp has

end Decoder

end Json

end Pipewright
