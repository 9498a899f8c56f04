import Pipewright.Proofs.Json.Reading

set_option autoImplicit false

/-! # Reading records

A record is read from an object member by member, in any order. When no key is repeated this comes
to reading slot by slot: `fillByName_succeeds` says that a draft comes out if and only if each
slot can be filled from the member of its name, if there is one, and `part_fillByName` that a part
of the draft depends on the member of its own slot only. -/

namespace Pipewright.Json

variable {σ α β : Type} {slots : List (Slot σ)} {carrier : Carrier}

/-- Filling the slot leaves this part of the draft as it was. -/
def Slot.Keeps (slot : Slot σ) (part : σ → β) : Prop :=
  ∀ carrier form put, slot.fill carrier form = .ok put → ∀ draft, part (put draft) = part draft

theorem Slot.keeps_of_fill {slot : Slot σ} {part : σ → β} {decode : Decoder α}
    {put : α → σ → σ}
    (hfill : slot.fill = fun carrier form => (decode carrier form).map put)
    (hput : ∀ a draft, part (put a draft) = part draft) : slot.Keeps part := by
  intro carrier form put' h draft
  rw [hfill] at h
  obtain ⟨a, -, rfl⟩ := Except.map_ok_iff.mp h
  exact hput a draft

namespace Record

/-- Only the slot of this name changes this part of the draft. -/
def Confines (slots : List (Slot σ)) (name : String) (part : σ → β) : Prop :=
  ∀ slot ∈ slots, slot.name ≠ name → slot.Keeps part

/-- Slots have different names, and no slot counts as filled when another one is. -/
structure Apart (slots : List (Slot σ)) : Prop where
  names : (slots.map (·.name)).Nodup
  fills : ∀ slot ∈ slots, Confines slots slot.name slot.isFilled

theorem find?_name (hnames : (slots.map (·.name)).Nodup) {slot : Slot σ} (hslot : slot ∈ slots) :
    slots.find? (·.name == slot.name) = some slot := by
  induction slots with
  | nil => cases hslot
  | cons first rest ih =>
    rw [List.map_cons, List.nodup_cons] at hnames
    rcases List.mem_cons.mp hslot with rfl | hrest
    · exact List.find?_cons_of_pos (by simp)
    · have hne : first.name ≠ slot.name := fun h =>
        hnames.1 (h ▸ List.mem_map_of_mem hrest)
      rw [List.find?_cons_of_neg (by simpa using hne)]
      exact ih hnames.2 hrest

/-- A member is passed over, refused as a repetition, or put into the draft. -/
theorem fillByName_cons (key : String) (json : Json) (rest : List (String × Json)) (draft : σ) :
    fillByName slots carrier (Form.ofMembers ((key, json) :: rest)) draft =
      match slots.find? (·.name == key) with
      | none => fillByName slots carrier (Form.ofMembers rest) draft
      | some slot =>
        if slot.isFilled draft then .error (.duplicateField slot.name)
        else (slot.fill carrier (Form.ofJson json)) >>= fun put =>
          fillByName slots carrier (Form.ofMembers rest) (put draft) := by
  simp only [Form.ofMembers, fillByName, Token.sound, skip_ofJson]
  rfl

/-- A reading that succeeds has passed over the first member or has put it into the draft. -/
theorem fillByName_cons_ok {key : String} {json : Json} {rest : List (String × Json)}
    {draft final : σ}
    (h : fillByName slots carrier (Form.ofMembers ((key, json) :: rest)) draft = .ok final) :
    (slots.find? (·.name == key) = none ∧
      fillByName slots carrier (Form.ofMembers rest) draft = .ok final) ∨
    ∃ slot put, slot ∈ slots ∧ slot.name = key ∧ slot.isFilled draft = false ∧
      slot.fill carrier (Form.ofJson json) = .ok put ∧
      fillByName slots carrier (Form.ofMembers rest) (put draft) = .ok final := by
  rw [fillByName_cons] at h
  cases hfind : slots.find? (·.name == key) with
  | none =>
    rw [hfind] at h
    exact .inl ⟨rfl, h⟩
  | some slot =>
    simp only [hfind] at h
    cases hfilled : slot.isFilled draft with
    | true => simp [hfilled] at h
    | false =>
      simp only [hfilled, Bool.false_eq_true, ↓reduceIte, Except.bind_ok_iff] at h
      obtain ⟨put, hput, hrest⟩ := h
      have hname : slot.name = key := by simpa using List.find?_some hfind
      exact .inr ⟨slot, put, List.mem_of_find?_eq_some hfind, hname, hfilled, hput, hrest⟩

/-- Without a member of its name, a part of the draft stays as it was. -/
theorem part_fillByName_of_absent {name : String} {part : σ → β}
    (hpart : Confines slots name part) {members : List (String × Json)}
    (habsent : name ∉ members.map (·.1)) {draft final : σ}
    (h : fillByName slots carrier (Form.ofMembers members) draft = .ok final) :
    part final = part draft := by
  induction members generalizing draft with
  | nil => cases h; rfl
  | cons member rest ih =>
    obtain ⟨key, json⟩ := member
    rw [List.map_cons, List.mem_cons, not_or] at habsent
    rcases fillByName_cons_ok h with ⟨-, hrest⟩ | ⟨slot, put, hslot, rfl, -, hput, hrest⟩
    · exact ih habsent.2 hrest
    · rw [ih habsent.2 hrest]
      exact hpart slot hslot (Ne.symm habsent.1) carrier _ put hput draft

/-- With a member of its name, a part of the draft is what its slot makes of this member. -/
theorem part_fillByName {slot : Slot σ} (hnames : (slots.map (·.name)).Nodup)
    (hslot : slot ∈ slots) {part : σ → β} (hpart : Confines slots slot.name part)
    {members : List (String × Json)} (hkeys : (members.map (·.1)).Nodup) {json : Json}
    (hmember : Dictionary.get? slot.name members = some json) {draft final : σ}
    (h : fillByName slots carrier (Form.ofMembers members) draft = .ok final) :
    ∃ put before, slot.fill carrier (Form.ofJson json) = .ok put ∧
      part before = part draft ∧ part final = part (put before) := by
  -- members before the one of this name leave the part alone, and those behind it have other names
  induction members generalizing draft with
  | nil => cases hmember
  | cons member rest ih =>
    obtain ⟨key, value⟩ := member
    rw [List.map_cons, List.nodup_cons] at hkeys
    unfold Dictionary.get? at hmember
    split at hmember
    · next hkey =>
      subst hkey
      cases hmember
      rcases fillByName_cons_ok h with ⟨hnone, -⟩ | ⟨other, put, hother, hname, -, hput, hrest⟩
      · rw [find?_name hnames hslot] at hnone
        cases hnone
      · -- the slot that was found by the name is this one
        have heq : other = slot := by
          have hfind := find?_name hnames hother
          rw [hname, find?_name hnames hslot] at hfind
          exact (Option.some.inj hfind).symm
        subst heq
        exact ⟨put, draft, hput, rfl, part_fillByName_of_absent hpart hkeys.1 hrest⟩
    · next hkey =>
      rcases fillByName_cons_ok h with ⟨-, hrest⟩ | ⟨other, put, hother, rfl, -, hput, hrest⟩
      · exact ih hkeys.2 hmember hrest
      · obtain ⟨put', before, hput', hbefore, hfinal⟩ := ih hkeys.2 hmember hrest
        have hkeeps := hpart other hother hkey carrier _ put hput draft
        exact ⟨put', before, hput', hbefore.trans hkeeps, hfinal⟩

/-- Reading succeeds if and only if every slot takes the member of its name. -/
theorem fillByName_succeeds (carrier : Carrier) (hapart : Apart slots)
    {members : List (String × Json)} (hkeys : (members.map (·.1)).Nodup) {draft : σ}
    (hempty : ∀ slot ∈ slots, slot.name ∈ members.map (·.1) → slot.isFilled draft = false) :
    (∃ final, fillByName slots carrier (Form.ofMembers members) draft = .ok final) ↔
      ∀ slot ∈ slots, ∀ json, Dictionary.get? slot.name members = some json →
        ∃ put, slot.fill carrier (Form.ofJson json) = .ok put := by
  constructor
  · rintro ⟨final, h⟩ slot hslot json hmember
    obtain ⟨put, -, hput, -⟩ :=
      part_fillByName hapart.names hslot (hapart.fills slot hslot) hkeys hmember h
    exact ⟨put, hput⟩
  · intro h
    -- no slot is found filled, for filling one leaves those of all later members empty
    induction members generalizing draft with
    | nil => exact ⟨draft, rfl⟩
    | cons member rest ih =>
      obtain ⟨key, value⟩ := member
      rw [List.map_cons, List.nodup_cons] at hkeys
      have hlater : ∀ slot ∈ slots, ∀ json, Dictionary.get? slot.name rest = some json →
          ∃ put, slot.fill carrier (Form.ofJson json) = .ok put := by
        intro slot hslot json hmember
        have hmem := Dictionary.mem_of_get? hmember
        have hne : key ≠ slot.name := fun hkey =>
          hkeys.1 (hkey ▸ List.mem_map.mpr ⟨_, hmem, rfl⟩)
        exact h slot hslot json (by rw [Dictionary.get?, if_neg hne]; exact hmember)
      rw [fillByName_cons]
      cases hfind : slots.find? (·.name == key) with
      | none =>
        exact ih hkeys.2 (fun slot hslot hkey => hempty slot hslot (List.mem_cons_of_mem _ hkey))
          hlater
      | some slot =>
        have hslot : slot ∈ slots := List.mem_of_find?_eq_some hfind
        have hname : slot.name = key := by simpa using List.find?_some hfind
        obtain ⟨put, hput⟩ := h slot hslot value (by rw [Dictionary.get?, if_pos hname.symm])
        have hfilled : slot.isFilled draft = false :=
          hempty slot hslot (by rw [hname]; exact List.mem_cons_self)
        simp only [hfilled, Bool.false_eq_true, ↓reduceIte, hput]
        refine ih hkeys.2 (fun other hother hkey => ?_) hlater
        have hne : slot.name ≠ other.name := fun heq => hkeys.1 (hname ▸ heq ▸ hkey)
        rw [hapart.fills other hother slot hslot hne carrier _ put hput draft]
        exact hempty other hother (List.mem_cons_of_mem _ hkey)

/-- One slot of the record reads this part of the draft, and no other slot changes it. -/
structure Reads (slots : List (Slot σ)) (name : String) (part : σ → Option α)
    (decode : Decoder α) : Prop where
  slot : ∃ slot ∈ slots, slot.name = name ∧ ∃ put : α → σ → σ,
    (slot.fill = fun carrier form => (decode carrier form).map put) ∧
      ∀ a draft, part (put a draft) = some a
  confined : Confines slots name part

/-- A part that was missing is what its member is read as, and missing without the member. -/
theorem Reads.part {name : String} {part : σ → Option α} {decode : Decoder α}
    (hreads : Reads slots name part decode) (hnames : (slots.map (·.name)).Nodup)
    {members : List (String × Json)} (hkeys : (members.map (·.1)).Nodup) {draft final : σ}
    (hdraft : part draft = none)
    (h : fillByName slots carrier (Form.ofMembers members) draft = .ok final) :
    Option.Rel (fun json a => decode carrier (Form.ofJson json) = .ok a)
      (Dictionary.get? name members) (part final) := by
  obtain ⟨slot, hslot, rfl, put, hfill, hput⟩ := hreads.slot
  cases hmember : Dictionary.get? slot.name members with
  | none =>
    have habsent := Dictionary.get?_eq_none_iff.mp hmember
    rw [part_fillByName_of_absent hreads.confined habsent h, hdraft]
    exact .none
  | some json =>
    obtain ⟨put', before, hput', -, hfinal⟩ :=
      part_fillByName hnames hslot hreads.confined hkeys hmember h
    rw [hfill] at hput'
    obtain ⟨a, ha, rfl⟩ := Except.map_ok_iff.mp hput'
    rw [hfinal, hput]
    exact .some ha

/-- An object is read by name. -/
theorem decode_object (record : Record σ α) {members : List (String × Json)}
    (hroom : carrier.Admits (depthMembers members + 1)) :
    record.decode carrier (Form.ofJson (.object members)) =
      fillByName record.slots carrier.inside (Form.ofMembers members) record.empty >>=
        record.finish := by
  simp only [Form.ofJson, decode, hroom.enter]
  rfl

/-- Besides objects, a record is read from arrays only. -/
theorem object_of_decode {record : Record σ α} {json : Json} {a : α} (harray : ¬ json.IsArray)
    (h : record.decode carrier (Form.ofJson json) = .ok a) : json.IsObject := by
  cases json with
  | object members => exact ⟨members, rfl⟩
  | array items => exact absurd ⟨items, rfl⟩ harray
  | _ => exact absurd h Decoder.mismatch_ne_ok

end Record

end Pipewright.Json
