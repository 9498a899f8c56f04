import Pipewright.Proofs.Json.Records

set_option autoImplicit false

/-! # Reading back what was written

`Decoder.Restores decode json a` says that a value is read as `a` by every carrier that has room
for it. There is one law for each way of reading: scalars, options, lists, dictionaries, and records
member by member (`Record.Fills`) or part by part (`Record.Reads.restored`).

`Decoder.Yields decode P` says the converse of what a decoder may give: whatever it reads has the
property `P`. -/

namespace Pipewright.Json

variable {σ α : Type}

/-- Every carrier with room for the value reads it as this. -/
def Decoder.Restores (decode : Decoder α) (json : Json) (a : α) : Prop :=
  ∀ carrier : Carrier, carrier.Admits json.depth → decode carrier (Form.ofJson json) = .ok a

theorem Decoder.Restores.ofJson? {decode : Decoder α} {json : Json} {a : α}
    (h : decode.Restores json a) : ofJson? decode json = .ok a :=
  h .value trivial

/-! ## Scalars, options, lists and dictionaries -/

namespace Decoder

theorem text_restores (s : String) : Decoder.text.Restores (.string s) s :=
  fun _ _ => rfl

theorem path_restores (s : String) : Decoder.path.Restores (.string s) s :=
  fun _ _ => rfl

theorem bool_restores (b : Bool) : Decoder.bool.Restores (.bool b) b :=
  fun _ _ => rfl

theorem word_restores (n : Nat) : Decoder.word.Restores (.ofNat n) n := by
  intro carrier _
  simp [Decoder.word, ofNat, ofInt, Form.ofJson, Token.sound, Except.bind]

theorem json_restores {json : Json} (h : json.IsSorted) : Decoder.json.Restores json json := by
  intro carrier hroom
  rw [Decoder.json, decodeJson_ofJson json hroom, h.sorted_eq]

theorem optional_restores {decode : Decoder α} {encode : α → Json} {option : Option α}
    (hnull : ∀ a ∈ option, encode a ≠ .null) (h : ∀ a ∈ option, decode.Restores (encode a) a) :
    (optional decode).Restores (.ofOption encode option) option := by
  intro carrier hroom
  cases option with
  | none => rfl
  | some a =>
    have ha := h a rfl carrier hroom
    rw [ofOption, optional_ofJson (hnull a rfl), ha]
    rfl

theorem list_restores {decode : Decoder α} {encode : α → Json} {list : List α}
    (h : ∀ a ∈ list, decode.Restores (encode a) a) :
    (Decoder.list decode).Restores (.array (list.map encode)) list := by
  intro carrier hroom
  rw [depth] at hroom
  rw [list_ofItems_iff hroom, List.forall₂_map_left_iff, List.forall₂_same]
  exact fun a ha =>
    h a ha _ (hroom.inside.mono (depth_le_depthItems (List.mem_map_of_mem ha)))

theorem members_ofMembers {decode : Decoder α} {encode : α → Json} {pairs : List (String × α)}
    {carrier : Carrier}
    (h : ∀ pair ∈ pairs, decode carrier (Form.ofJson (encode pair.2)) = .ok pair.2) :
    members decode carrier (Form.ofMembers (pairs.map fun pair => (pair.1, encode pair.2))) =
      .ok pairs := by
  induction pairs with
  | nil => rfl
  | cons pair rest ih =>
    rw [List.forall_mem_cons] at h
    simp only [List.map_cons, Form.ofMembers, members, Token.sound, bind, Except.bind, h.1,
      ih h.2]
    rfl

theorem dictionary_restores {decode : Decoder α} {encode : α → Json} {pairs : Dictionary α}
    (hsorted : pairs.IsSorted) (h : ∀ pair ∈ pairs, decode.Restores (encode pair.2) pair.2) :
    (Decoder.dictionary decode).Restores
      (.object (pairs.map fun pair => (pair.1, encode pair.2))) pairs := by
  intro carrier hroom
  rw [depth] at hroom
  have hmembers := members_ofMembers fun pair hpair => h pair hpair carrier.inside
    (hroom.inside.mono (depth_le_depthMembers (List.mem_map_of_mem hpair)))
  simp only [Form.ofJson, Decoder.dictionary, hroom.enter, bind, Except.bind, hmembers,
    MembersEnd.afterLast, Dictionary.ofList_eq hsorted]
  rfl

end Decoder

/-! ## Records -/

namespace Record

variable {slots : List (Slot σ)} {name : String} {part : σ → Option α} {decode : Decoder α}
  {carrier : Carrier} {members : List (String × Json)} {draft final : σ}

/-- Every carrier with room for the members fills the draft with them. -/
def Fills (slots : List (Slot σ)) (members : List (String × Json)) (draft final : σ) : Prop :=
  ∀ carrier : Carrier, carrier.Admits (depthMembers members) →
    fillByName slots carrier (Form.ofMembers members) draft = .ok final

theorem Fills.nil : Fills slots [] draft draft :=
  fun _ _ => rfl

/-- The first member goes into the slot of its name. -/
theorem Fills.cons {slot : Slot σ} {put : α → σ → σ} {a : α} {json : Json}
    (hfind : slots.find? (·.name == name) = some slot)
    (hfill : slot.fill = fun carrier form => (decode carrier form).map put)
    (hempty : slot.isFilled draft = false) (h : decode.Restores json a)
    (hrest : Fills slots members (put a draft) final) :
    Fills slots ((name, json) :: members) draft final := by
  intro carrier hroom
  rw [depthMembers] at hroom
  have hjson := h carrier (hroom.mono (Nat.le_max_left _ _))
  have hmembers := hrest carrier (hroom.mono (Nat.le_max_right _ _))
  rw [fillByName_cons]
  simp only [hfind, hempty, Bool.false_eq_true, ↓reduceIte, hfill, hjson]
  exact hmembers

theorem Fills.restores {record : Record σ α} {a : α}
    (h : Fills record.slots members record.empty final) (hfinish : record.finish final = .ok a) :
    record.decode.Restores (.object members) a := by
  intro carrier hroom
  rw [depth] at hroom
  rw [decode_object record hroom, h carrier.inside hroom.inside]
  exact hfinish

/-- A part that was missing is what its member stands for. -/
theorem Reads.restored (hreads : Reads slots name part decode)
    (hnames : (slots.map (·.name)).Nodup) (hkeys : (members.map (·.1)).Nodup)
    (hroom : carrier.Admits (depthMembers members)) (hdraft : part draft = none) {json : Json}
    {a : α} (hmember : Dictionary.get? name members = some json) (h : decode.Restores json a)
    (hfill : fillByName slots carrier (Form.ofMembers members) draft = .ok final) :
    part final = some a := by
  have hdepth := depth_le_depthMembers (Dictionary.mem_of_get? hmember)
  have hread := h carrier (hroom.mono hdepth)
  have hpart := hreads.part hnames hkeys hdraft hfill
  rw [hmember] at hpart
  generalize part final = read at hpart ⊢
  cases hpart with
  | some hb => exact congrArg some (Except.ok.inj (hb.symm.trans hread))

/-- Without its member, a part stays missing. -/
theorem Reads.missing (hreads : Reads slots name part decode)
    (hnames : (slots.map (·.name)).Nodup) (hkeys : (members.map (·.1)).Nodup)
    (hdraft : part draft = none) (hmember : Dictionary.get? name members = none)
    (hfill : fillByName slots carrier (Form.ofMembers members) draft = .ok final) :
    part final = none := by
  have hpart := hreads.part hnames hkeys hdraft hfill
  rw [hmember] at hpart
  generalize part final = read at hpart ⊢
  cases hpart with
  | none => rfl

end Record

/-! ## What can be read -/

/-- Whatever is read has this property. -/
def Decoder.Yields (decode : Decoder α) (P : α → Prop) : Prop :=
  ∀ carrier form a, decode carrier form = .ok a → P a

namespace Decoder

variable {decode : Decoder α} {P : α → Prop}

theorem json_yields : Decoder.json.Yields IsSorted :=
  fun _ form _ h => isSorted_of_decodeJson form h

theorem optional_yields (h : decode.Yields P) : (optional decode).Yields fun option =>
    ∀ a ∈ option, P a := by
  intro carrier form option hoption a ha
  cases form with
  | null =>
    cases hoption
    cases ha
  | _ =>
    obtain ⟨b, hb, rfl⟩ := Except.map_ok_iff.mp hoption
    cases ha
    exact h _ _ _ hb

theorem items_yield (h : decode.Yields P) {carrier : Carrier} {forms : List Form} {list : List α}
    (hlist : items decode carrier forms = .ok list) : ∀ a ∈ list, P a := by
  induction forms generalizing list with
  | nil =>
    cases hlist
    nofun
  | cons form rest ih =>
    simp only [items, Except.bind_ok_iff] at hlist
    obtain ⟨a, ha, as, has, hcons⟩ := hlist
    cases hcons
    exact List.forall_mem_cons.mpr ⟨h _ _ _ ha, ih has⟩

theorem list_yields (h : decode.Yields P) : (Decoder.list decode).Yields fun list =>
    ∀ a ∈ list, P a := by
  intro carrier form list hlist
  cases form with
  | array forms close =>
    simp only [Decoder.list, Except.bind_ok_iff] at hlist
    obtain ⟨_, -, as, has, _, -, heq⟩ := hlist
    cases heq
    exact items_yield h has
  | _ => exact absurd hlist mismatch_ne_ok

theorem dictionary_yields : (Decoder.dictionary decode).Yields Dictionary.IsSorted := by
  intro carrier form dictionary hdictionary
  cases form with
  | object forms close =>
    simp only [Decoder.dictionary, Except.bind_ok_iff] at hdictionary
    obtain ⟨_, -, pairs, -, _, -, heq⟩ := hdictionary
    cases heq
    exact Dictionary.isSorted_ofList pairs
  | _ => exact absurd hdictionary mismatch_ne_ok

end Decoder

namespace Slot

/-- Filling the slot keeps this property of the draft. -/
def Preserves (slot : Slot σ) (P : σ → Prop) : Prop :=
  ∀ carrier form put, slot.fill carrier form = .ok put → ∀ draft, P draft → P (put draft)

theorem preserves_of_yields {slot : Slot σ} {P : σ → Prop} {Q : α → Prop} {decode : Decoder α}
    {put : α → σ → σ} (hfill : slot.fill = fun carrier form => (decode carrier form).map put)
    (hdecode : decode.Yields Q) (hput : ∀ a, Q a → ∀ draft, P draft → P (put a draft)) :
    slot.Preserves P := by
  intro carrier form put' h draft hdraft
  rw [hfill] at h
  obtain ⟨a, ha, rfl⟩ := Except.map_ok_iff.mp h
  exact hput a (hdecode _ _ _ ha) draft hdraft

theorem preserves {slot : Slot σ} {P : σ → Prop} {decode : Decoder α} {put : α → σ → σ}
    (hfill : slot.fill = fun carrier form => (decode carrier form).map put)
    (hput : ∀ a draft, P draft → P (put a draft)) : slot.Preserves P :=
  preserves_of_yields (Q := fun _ => True) hfill (fun _ _ _ _ => trivial) fun a _ => hput a

end Slot

namespace Record

variable {slots : List (Slot σ)} {P : σ → Prop}

theorem fillByName_preserves (h : ∀ slot ∈ slots, slot.Preserves P) {carrier : Carrier}
    {members : List (Token String × Form)} {draft final : σ} (hdraft : P draft)
    (hfill : fillByName slots carrier members draft = .ok final) : P final := by
  induction members generalizing draft with
  | nil =>
    cases hfill
    exact hdraft
  | cons member rest ih =>
    simp only [fillByName, Except.bind_ok_iff] at hfill
    obtain ⟨key, -, hfill⟩ := hfill
    split at hfill
    · obtain ⟨_, -, hrest⟩ := Except.bind_ok_iff.mp hfill
      exact ih hdraft hrest
    · next slot hfind =>
      split at hfill
      · cases hfill
      · obtain ⟨put, hput, hrest⟩ := Except.bind_ok_iff.mp hfill
        have hslot := List.mem_of_find?_eq_some hfind
        exact ih (h slot hslot _ _ put hput draft hdraft) hrest

theorem fillByPosition_preserves (h : ∀ slot ∈ slots, slot.Preserves P) {expected : String}
    {carrier : Carrier} {close : ItemsEnd} {index : Nat} {items : List Form} {draft : σ}
    {result : List Form × σ} (hdraft : P draft)
    (hfill : fillByPosition expected carrier close slots index items draft = .ok result) :
    P result.2 := by
  induction slots generalizing index items draft with
  | nil =>
    cases hfill
    exact hdraft
  | cons slot rest ih =>
    rw [List.forall_mem_cons] at h
    cases items with
    | nil =>
      simp only [fillByPosition, Except.bind_ok_iff] at hfill
      obtain ⟨_, -, hfill⟩ := hfill
      split at hfill
      · cases hfill
      · exact ih h.2 hdraft hfill
    | cons item more =>
      obtain ⟨put, hput, hrest⟩ := Except.bind_ok_iff.mp hfill
      exact ih h.2 (h.1 _ _ put hput draft hdraft) hrest

/-- What the slots preserve of the draft is read off the result. -/
theorem decode_yields {record : Record σ α} {Q : α → Prop}
    (h : ∀ slot ∈ record.slots, slot.Preserves P) (hempty : P record.empty)
    (hfinish : ∀ draft, P draft → ∀ a, record.finish draft = .ok a → Q a) :
    record.decode.Yields Q := by
  intro carrier form a ha
  cases form with
  | object members close =>
    simp only [decode, Except.bind_ok_iff] at ha
    obtain ⟨_, -, draft, hdraft, _, -, hresult⟩ := ha
    exact hfinish draft (fillByName_preserves h hempty hdraft) a hresult
  | array items close =>
    simp only [decode, Except.bind_ok_iff] at ha
    obtain ⟨_, -, result, hresult, b, hb, _, -, heq⟩ := ha
    cases heq
    exact hfinish result.2 (fillByPosition_preserves h hempty hresult) _ hb
  | _ => exact absurd ha Decoder.mismatch_ne_ok

end Record

end Pipewright.Json
