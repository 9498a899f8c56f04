import Pipewright.Proofs.Template.Scopes
import Pipewright.Proofs.Template.Writing

set_option autoImplicit false

/-! # Scopes that lead to the same values

A scope stands at a place in the data or at a value of its own, and so does a name that a block
gives. Rendering cannot tell the two apart where they lead to the same values: in places that are
alike (`Place.Alike`), elements are rendered alike (`renderElement_alike`). -/

namespace Pipewright

namespace Template

/-! ## Related results -/

/-- Both results are the same fault, or are related. -/
inductive SameUpTo {α β : Type} (R : α → β → Prop) :
    Except RenderFault α → Except RenderFault β → Prop
  | ok {a : α} {b : β} (h : R a b) : SameUpTo R (.ok a) (.ok b)
  | error (fault : RenderFault) : SameUpTo R (.error fault) (.error fault)

section Results

variable {α β γ δ : Type} {R : α → β → Prop} {S : γ → δ → Prop} {x : Except RenderFault α}
  {y : Except RenderFault β}

theorem SameUpTo.bind (h : SameUpTo R x y) {f : α → Except RenderFault γ}
    {g : β → Except RenderFault δ} (hnext : ∀ a b, R a b → SameUpTo S (f a) (g b)) :
    SameUpTo S (x >>= f) (y >>= g) := by
  cases h with
  | ok h => exact hnext _ _ h
  | error fault => exact .error fault

theorem SameUpTo.bind_eq (h : SameUpTo R x y) {f : α → Except RenderFault γ}
    {g : β → Except RenderFault γ} (hnext : ∀ a b, R a b → f a = g b) : (x >>= f) = (y >>= g) := by
  cases h with
  | ok h => exact hnext _ _ h
  | error fault => rfl

theorem SameUpTo.settle_eq (h : SameUpTo R x y) {f : α → Render γ} {g : β → Render γ}
    (hnext : ∀ a b, R a b → f a = g b) : (settle x >>= f) = (settle y >>= g) := by
  cases h with
  | ok h => exact hnext _ _ h
  | error fault => rfl

theorem SameUpTo.map (h : SameUpTo R x y) {f : α → γ} {g : β → δ}
    (hnext : ∀ a b, R a b → S (f a) (g b)) : SameUpTo S (x.map f) (y.map g) := by
  cases h with
  | ok h => exact .ok (hnext _ _ h)
  | error fault => exact .error fault

theorem SameUpTo.and_ok (h : SameUpTo R x y) : SameUpTo (fun a b => x = .ok a ∧ R a b) x y := by
  cases h with
  | ok h => exact .ok ⟨rfl, h⟩
  | error fault => exact .error fault

theorem SameUpTo.refl {R : α → α → Prop} (hrefl : ∀ a, R a a) (x : Except RenderFault α) :
    SameUpTo R x x := by
  cases x with
  | ok a => exact .ok (hrefl a)
  | error fault => exact .error fault

theorem SameUpTo.map_eq (h : SameUpTo R x y) {f : α → γ} {g : β → γ}
    (hnext : ∀ a b, R a b → f a = g b) : x.map f = y.map g := by
  cases h with
  | ok h => exact congrArg Except.ok (hnext _ _ h)
  | error fault => rfl

theorem rel_cases {a : Option α} {b : Option β} (h : Option.Rel R a b) :
    (a = none ∧ b = none) ∨ ∃ x y, a = some x ∧ b = some y ∧ R x y := by
  cases h with
  | none => exact .inl ⟨rfl, rfl⟩
  | some h => exact .inr ⟨_, _, rfl, rfl, h⟩

theorem getElem?_of_forall₂ {xs : List α} {ys : List β} (h : List.Forall₂ R xs ys) (index : Nat) :
    Option.Rel R xs[index]? ys[index]? := by
  induction h generalizing index with
  | nil => exact .none
  | cons h _ ih =>
    cases index with
    | zero => exact .some h
    | succ index => exact ih index

/-- What is found by its name in related lists is related. -/
theorem find?_name_of_forall₂ {R : String × α → String × β → Prop} {xs : List (String × α)}
    {ys : List (String × β)} (h : List.Forall₂ R xs ys) (hname : ∀ a b, R a b → a.1 = b.1)
    (name : String) :
    Option.Rel R (xs.find? (·.1 == name)) (ys.find? (·.1 == name)) := by
  induction h with
  | nil => exact .none
  | @cons a b _ _ hab _ ih =>
    rw [List.find?_cons, List.find?_cons, hname a b hab]
    cases b.1 == name with
    | true => exact .some hab
    | false => exact ih

end Results

/-! ## Scopes -/

/-- What names lead to from a scope. -/
def Scope.leads (data : Json) (scope : Scope) (names : List String) :
    Except RenderFault (Option Json) :=
  match scope.value with
  | some value => follow names (some value)
  | none => follow (scope.path ++ names) (some data)

/-- What names lead to from what a block has named, the path being that of its scope. -/
def Bound.leads (data : Json) (path names : List String) : Bound → Except RenderFault (Option Json)
  | .here => follow (path ++ names) (some data)
  | .value own => follow names (some own)

/-- What blocks have named, with the path of its scope, leads to the same values. -/
def SameLeads (data : Json) (found found' : Bound × List String) : Prop :=
  ∀ names, found.1.leads data found.2 names = found'.1.leads data found'.2 names

/-- The scopes have the same variables, and lead to the same values. -/
structure Scope.Alike (data : Json) (one other : Scope) : Prop where
  leads : ∀ names, one.leads data names = other.leads data names
  locals : one.locals = other.locals
  names : List.Forall₂ (fun named named' : String × Bound => named.1 = named'.1 ∧
    SameLeads data (named.2, one.path) (named'.2, other.path)) one.names other.names

/-- The places differ only in how their scopes stand for their values. -/
structure Place.Alike (one other : Place) : Prop where
  data : one.data = other.data
  scopes : List.Forall₂ (Scope.Alike one.data) one.scopes other.scopes
  indent : one.indent = other.indent
  isMain : one.isMain = other.isMain
  bodies : one.bodies = other.bodies

/-- The operands have the same value, which stands where they are located. -/
structure Operand.Alike (data : Json) (one other : Operand) : Prop where
  text : one.text = other.text
  value : one.value = other.value
  located : ∀ path, one.location = some path → data.at? path = one.value
  located' : ∀ path, other.location = some path → data.at? path = other.value

theorem Operand.Alike.located_at {data value : Json} {one other : Operand}
    (h : Operand.Alike data one other) (hvalue : one.value = some value) :
    (∀ path, one.location = some path → data.at? path = some value) ∧
      ∀ path, other.location = some path → data.at? path = some value :=
  ⟨fun path hpath => (h.located path hpath).trans hvalue,
    fun path hpath => (h.located' path hpath).trans (h.value.symm.trans hvalue)⟩

theorem Operand.Alike.valueOrNull_eq {data : Json} {one other : Operand}
    (h : Operand.Alike data one other) : one.valueOrNull = other.valueOrNull := by
  rw [Operand.valueOrNull, Operand.valueOrNull, h.value]

theorem Operand.alike_ofValue (data : Json) (value : Option Json) :
    Operand.Alike data (.ofValue value) (.ofValue value) :=
  ⟨rfl, rfl, fun _ h => (nomatch h), fun _ h => (nomatch h)⟩

/-! ## Looking references up -/

theorem atPath_value (place : Place) (text : String) (path : List String) :
    (place.atPath text path).map (·.value) = follow path (some place.data) := by
  unfold Place.atPath
  cases follow path (some place.data) <;> rfl

theorem inValue_value (value : Json) (text : String) (names : List String) :
    (Place.inValue value text names).map (·.value) = follow names (some value) := by
  unfold Place.inValue
  cases follow names (some value) <;> rfl

theorem fromScope_value (place : Place) (scope : Scope) (text : String) (names : List String) :
    (place.fromScope (some scope) text names).map (·.value) = scope.leads place.data names := by
  unfold Place.fromScope Scope.leads
  dsimp only
  cases scope.value with
  | some value => exact inValue_value value text names
  | none => exact atPath_value place text (scope.path ++ names)

/-- What the blocks call by a name leads to the same. -/
theorem bound?_rel {data : Json} {scopes scopes' : List Scope}
    (h : List.Forall₂ (Scope.Alike data) scopes scopes') (name : String) :
    Option.Rel (SameLeads data) (bound? name scopes) (bound? name scopes') := by
  induction h with
  | nil => exact .none
  | @cons scope scope' _ _ hscope _ ih =>
    unfold bound?
    have hfind := find?_name_of_forall₂ hscope.names (fun _ _ hnamed => hnamed.1) name
    rcases rel_cases hfind with ⟨hone, hother⟩ | ⟨named, named', hone, hother, hnamed⟩
    · rw [hone, hother]
      exact ih
    · rw [hone, hother]
      exact .some hnamed.2

theorem Place.Alike.refl (place : Place) : place.Alike place where
  data := rfl
  scopes := List.forall₂_same.mpr fun _ _ =>
    ⟨fun _ => rfl, rfl, List.forall₂_same.mpr fun _ _ => ⟨rfl, fun _ => rfl⟩⟩
  indent := rfl
  isMain := rfl
  bodies := rfl

section Lookups

variable {one other : Place} (h : one.Alike other)

include h

theorem Place.Alike.innermost :
    Option.Rel (Scope.Alike one.data) one.scopes.head? other.scopes.head? := by
  rw [List.head?_eq_getElem?, List.head?_eq_getElem?]
  exact getElem?_of_forall₂ h.scopes 0

theorem Place.Alike.fromScope_value {scope scope' : Option Scope}
    (hscope : Option.Rel (Scope.Alike one.data) scope scope') (text : String)
    (names : List String) :
    (one.fromScope scope text names).map (·.value) =
      (other.fromScope scope' text names).map (·.value) := by
  cases hscope with
  | none =>
    have hone : one.fromScope none text names = one.atPath text names := rfl
    have hother : other.fromScope none text names = other.atPath text names := rfl
    rw [hone, hother, atPath_value, atPath_value, h.data]
  | some hscope =>
    rw [Template.fromScope_value, Template.fromScope_value, ← h.data, hscope.leads]

/-- References have the same values in places that are alike. -/
theorem Place.Alike.resolve_value (reference : Reference) :
    (one.resolve reference).map (·.value) = (other.resolve reference).map (·.value) := by
  match reference with
  | .variable level name text =>
    have hscope := getElem?_of_forall₂ h.scopes level
    simp only [Place.resolve, Except.map]
    rcases rel_cases hscope with ⟨hone, hother⟩ | ⟨scope, scope', hone, hother, hscope⟩
    · rw [hone, hother]
    · rw [hone, hother, Option.bind_some, Option.bind_some, hscope.locals]
  | .path steps text =>
    have hbound : Option.Rel (SameLeads one.data)
        ((firstName? steps).bind fun name => bound? name one.scopes)
        ((firstName? steps).bind fun name => bound? name other.scopes) := by
      cases firstName? steps with
      | none => exact .none
      | some name => exact bound?_rel h.scopes name
    unfold Place.resolve
    rcases rel_cases hbound with ⟨hone, hother⟩ | ⟨found, found', hone, hother, hfound⟩
    · simp only [hone, hother]
      cases ascent steps with
      | zero =>
        by_cases hroot : steps.head? = some .root
        · simp only [hroot, if_true, atPath_value, h.data]
        · simp only [hroot, if_false]
          exact h.fromScope_value h.innermost text _
      | succ level =>
        refine h.fromScope_value ?_ text _
        rcases rel_cases (getElem?_of_forall₂ h.scopes (level + 1)) with
          ⟨hone, hother⟩ | ⟨scope, scope', hone, hother, hscope⟩
        · rw [hone, hother]
          exact h.innermost
        · rw [hone, hother]
          exact .some hscope
    · have hnames := hfound (stepNames (steps.drop 1))
      rw [h.data] at hnames
      simp only [hone, hother]
      rcases found with ⟨_ | _, _⟩ <;> rcases found' with ⟨_ | _, _⟩ <;>
        simpa only [atPath_value, inValue_value, h.data, Bound.leads] using hnames

/-- References have operands that are alike. -/
theorem Place.Alike.resolve (reference : Reference) :
    SameUpTo (Operand.Alike one.data) (one.resolve reference) (other.resolve reference) := by
  have hvalue := h.resolve_value reference
  have hone := one.resolve_gives reference
  have hother := other.resolve_gives reference
  rw [← h.data] at hother
  revert hvalue hone hother
  cases one.resolve reference with
  | error fault =>
    cases other.resolve reference with
    | error fault' =>
      intro hvalue _ _
      cases hvalue
      exact .error fault
    | ok operand' => exact fun hvalue => nomatch hvalue
  | ok operand =>
    cases other.resolve reference with
    | error fault' => exact fun hvalue => nomatch hvalue
    | ok operand' =>
      intro hvalue hone hother
      exact .ok ⟨hone.1.trans hother.1.symm, Except.ok.inj hvalue,
        fun path hpath => (hone.2.2 path hpath).trans hone.2.1.symm,
        fun path hpath => (hother.2.2 path hpath).trans hother.2.1.symm⟩

end Lookups

/-! ## Parameters -/

/-- Named operands that are alike. -/
def NamedAlike (data : Json) (named named' : String × Operand) : Prop :=
  named.1 = named'.1 ∧ Operand.Alike data named.2 named'.2

section Operands

variable {data : Json} {operands operands' : List Operand} {hash hash' : List (String × Operand)}

theorem presentOperand_eq (hoperands : List.Forall₂ (Operand.Alike data) operands operands')
    (helper : String) (index : Nat) :
    presentOperand helper index operands = presentOperand helper index operands' := by
  unfold presentOperand
  rcases rel_cases (getElem?_of_forall₂ hoperands index) with
    ⟨hone, hother⟩ | ⟨operand, operand', hone, hother, hoperand⟩
  · rw [hone, hother]
  · simp only [hone, hother, hoperand.value]

theorem map_value_eq (hoperands : List.Forall₂ (Operand.Alike data) operands operands') :
    operands.map (·.value) = operands'.map (·.value) := by
  induction hoperands with
  | nil => rfl
  | cons h _ ih => rw [List.map_cons, List.map_cons, h.value, ih]

/-- Helpers compute the same from operands that are alike. -/
theorem apply_eq (hoperands : List.Forall₂ (Operand.Alike data) operands operands')
    (hhash : List.Forall₂ (NamedAlike data) hash hash') (helper : ValueHelper) :
    helper.apply operands hash = helper.apply operands' hash' := by
  have hcomparison : ∀ name test, ValueHelper.comparison name test operands =
      ValueHelper.comparison name test operands' := by
    intro name test
    unfold ValueHelper.comparison
    rw [presentOperand_eq hoperands, presentOperand_eq hoperands]
  cases helper with
  | lookup =>
    cases hoperands with
    | nil => rfl
    | cons h hrest =>
      cases hrest with
      | nil => rfl
      | cons h' _ => simp only [ValueHelper.apply, h.valueOrNull_eq, h'.valueOrNull_eq]
  | log =>
    have hlevel := find?_name_of_forall₂ hhash (fun _ _ hnamed => hnamed.1) "level"
    simp only [ValueHelper.apply]
    rcases rel_cases hlevel with ⟨hone, hother⟩ | ⟨named, named', hone, hother, hnamed⟩
    · rw [hone, hother]
    · obtain ⟨name, text, value, location⟩ := named
      obtain ⟨name', text', value', location'⟩ := named'
      obtain rfl : value = value' := hnamed.2.value
      rw [hone, hother]
      rcases value with _ | _ | _ | _ | _ | _ | _ <;> rfl
  | eq | ne | gt | gte | lt | lte => exact hcomparison _ _
  | and =>
    have hall : ∀ operands : List Operand, (operands.all fun o => o.valueOrNull.isTruthy false) =
        (operands.map (·.value)).all fun value => (value.getD .null).isTruthy false :=
      fun operands => by rw [List.all_map]; rfl
    simp only [ValueHelper.apply, hall, map_value_eq hoperands]
  | or =>
    have hany : ∀ operands : List Operand, (operands.any fun o => o.valueOrNull.isTruthy false) =
        (operands.map (·.value)).any fun value => (value.getD .null).isTruthy false :=
      fun operands => by rw [List.any_map]; rfl
    simp only [ValueHelper.apply, hany, map_value_eq hoperands]
  | not | len =>
    simp only [ValueHelper.apply, presentOperand_eq hoperands]

theorem overlayContext_eq (hhash : List.Forall₂ (NamedAlike data) hash hash') (base : Json) :
    overlayContext base hash = overlayContext base hash' := by
  have hfold : ∀ members : Dictionary Json,
      hash.foldl (fun members named =>
        Dictionary.insert named.1 named.2.valueOrNull members) members =
      hash'.foldl (fun members named =>
        Dictionary.insert named.1 named.2.valueOrNull members) members := by
    induction hhash with
    | nil => exact fun _ => rfl
    | cons hnamed _ ih =>
      intro members
      rw [List.foldl_cons, List.foldl_cons, ih]
      simp only [hnamed.1, hnamed.2.valueOrNull_eq]
  cases hhash with
  | nil => rfl
  | cons _ _ =>
    unfold overlayContext
    rw [if_neg (List.cons_ne_nil _ _), if_neg (List.cons_ne_nil _ _)]
    exact congrArg Json.object (hfold _)

/-- Whether zeros count as true is the same. -/
theorem includesZero_eq (hhash : List.Forall₂ (NamedAlike data) hash hash') :
    includesZero hash = includesZero hash' := by
  have hflag := find?_name_of_forall₂ hhash (fun _ _ hnamed => hnamed.1) "includeZero"
  unfold includesZero
  rcases rel_cases hflag with ⟨hone, hother⟩ | ⟨named, named', hone, hother, hnamed⟩
  · rw [hone, hother]
  · simp only [hone, hother, hnamed.2.value]

/-- The parameter that a block cannot do without is alike. -/
theorem presentParam_alike (hoperands : List.Forall₂ (Operand.Alike data) operands operands')
    (helper : BlockHelper) :
    SameUpTo (fun found found' : Operand × Json => Operand.Alike data found.1 found'.1 ∧
      found.2 = found'.2 ∧ found.1.value = some found.2)
      (presentParam helper operands) (presentParam helper operands') := by
  cases hoperands with
  | nil => exact .error _
  | @cons operand operand' _ _ h _ =>
    simp only [presentParam, ← h.value, ← h.text]
    cases hvalue : operand.value with
    | none => exact .error _
    | some value => exact .ok ⟨h, rfl, hvalue⟩

theorem helperValue_alike (name : String)
    (hoperands : List.Forall₂ (Operand.Alike data) operands operands')
    (hhash : List.Forall₂ (NamedAlike data) hash hash') :
    SameUpTo (Operand.Alike data) (helperValue name operands hash)
      (helperValue name operands' hash') := by
  unfold helperValue
  cases Helper.ofName? name with
  | none => exact .error _
  | some helper =>
    cases helper with
    | value helper =>
      simp only [apply_eq hoperands hhash]
      cases helper.apply operands' hash' with
      | error fault => exact .error fault
      | ok value => exact .ok (Operand.alike_ofValue data value)
    | block helper =>
      cases helper with
      | raw => exact .ok (Operand.alike_ofValue data _)
      | if_ | «unless» | with_ | each =>
        exact (presentParam_alike hoperands _).map fun _ _ _ => Operand.alike_ofValue data _

end Operands

mutual

/-- Parameters have operands that are alike. -/
theorem Place.Alike.eval {one other : Place} (h : one.Alike other) (param : Param) :
    SameUpTo (Operand.Alike one.data) (param.eval one) (param.eval other) := by
  match param with
  | .literal value =>
    simp only [Param.eval]
    exact .ok (Operand.alike_ofValue one.data (some value))
  | .reference reference =>
    simp only [Param.eval]
    exact h.resolve reference
  | .call helper params hash =>
    simp only [Param.eval]
    exact (h.evalParams params).bind fun operands operands' hoperands =>
      (h.evalHash hash).bind fun hash hash' hhash => helperValue_alike helper hoperands hhash

theorem Place.Alike.evalParams {one other : Place} (h : one.Alike other) (params : List Param) :
    SameUpTo (List.Forall₂ (Operand.Alike one.data)) (evalParams one params)
      (evalParams other params) := by
  match params with
  | [] =>
    simp only [Template.evalParams]
    exact .ok .nil
  | param :: rest =>
    simp only [Template.evalParams]
    exact (h.eval param).bind fun operand operand' hoperand =>
      (h.evalParams rest).bind fun operands operands' hoperands => .ok (.cons hoperand hoperands)

theorem Place.Alike.evalHash {one other : Place} (h : one.Alike other)
    (hash : List (String × Param)) :
    SameUpTo (List.Forall₂ (NamedAlike one.data)) (evalHash one hash) (evalHash other hash) := by
  match hash with
  | [] =>
    simp only [Template.evalHash]
    exact .ok .nil
  | (name, param) :: rest =>
    simp only [Template.evalHash]
    exact (h.eval param).bind fun operand operand' hoperand =>
      (h.evalHash rest).bind fun operands operands' hoperands =>
        .ok (.cons ⟨rfl, hoperand⟩ hoperands)

end

/-! ## The scopes that blocks open -/

theorem follow_append (names rest : List String) (value : Option Json) :
    follow (names ++ rest) value = follow names value >>= follow rest := by
  induction names generalizing value with
  | nil => rfl
  | cons name names ih =>
    simp only [List.cons_append, follow]
    cases select name value with
    | error fault => rfl
    | ok inner => exact ih inner

/-- Names lead on from the value that a path leads to. -/
theorem follow_of_at? {data value : Json} {path : List String} (h : data.at? path = some value)
    (names : List String) : follow (path ++ names) (some data) = follow names (some value) := by
  have hpath := toOption_follow path data
  rw [h] at hpath
  rw [follow_append]
  cases hfollow : follow path (some data) with
  | error fault =>
    rw [hfollow] at hpath
    cases hpath
  | ok found =>
    rw [hfollow] at hpath
    change follow names found = _
    rw [show found = some value from hpath]

/-- Each item of a value in the data is where its step leads. -/
def HoldsItems (data : Json) : Prop :=
  ∀ path value, data.at? path = some value → LeadsToItems value

section Scopes

variable {one other : Place} {data : Json} {operand operand' : Operand} {value : Json}

theorem Place.Alike.enter (h : one.Alike other) {scope scope' : Scope}
    (hscope : scope.Alike one.data scope') : (one.enter scope).Alike (other.enter scope') :=
  ⟨h.data, .cons hscope h.scopes, h.indent, h.isMain, h.bodies⟩

/-- From the place of an operand and from its value, names lead to the same. -/
theorem ofOperand_leads
    (hlocated : ∀ path, operand.location = some path → data.at? path = some value)
    (names : List String) :
    (Scope.ofOperand operand value).leads data names = follow names (some value) ∧
      (boundTo operand value).leads data (Scope.ofOperand operand value).path names =
        follow names (some value) := by
  unfold Scope.ofOperand boundTo
  cases hlocation : operand.location with
  | none => exact ⟨rfl, rfl⟩
  | some path =>
    have hfollow := follow_of_at? (hlocated path hlocation) names
    exact ⟨hfollow, hfollow⟩

/-- From the place of an item and from its value, names lead to the same. -/
theorem itemScope_leads {item : Item}
    (hlocated : ∀ path, operand.location = some path →
      data.at? (path ++ [item.step]) = some item.value)
    (isObject : Bool) (count index : Nat) (block : BlockParam) (names : List String) :
    (itemScope operand isObject count index item block).leads data names =
        follow names (some item.value) ∧
      (boundTo operand item.value).leads data
        (itemScope operand isObject count index item block).path names =
        follow names (some item.value) := by
  unfold itemScope boundTo
  cases hlocation : operand.location with
  | none => exact ⟨rfl, rfl⟩
  | some path =>
    have hfollow := follow_of_at? (hlocated path hlocation) names
    exact ⟨hfollow, hfollow⟩

/-- The scopes of an item are alike if each operand's item is located where it stands. -/
theorem itemScope_alike {item : Item}
    (hone : ∀ path, operand.location = some path →
      data.at? (path ++ [item.step]) = some item.value)
    (hother : ∀ path, operand'.location = some path →
      data.at? (path ++ [item.step]) = some item.value)
    (isObject : Bool) (count index : Nat) (block : BlockParam) :
    (itemScope operand isObject count index item block).Alike data
      (itemScope operand' isObject count index item block) := by
  have hleads := itemScope_leads hone isObject count index block
  have hleads' := itemScope_leads hother isObject count index block
  have hbound : ∀ names, (boundTo operand item.value).leads data
      (itemScope operand isObject count index item block).path names =
      (boundTo operand' item.value).leads data
        (itemScope operand' isObject count index item block).path names :=
    fun names => (hleads names).2.trans (hleads' names).2.symm
  refine ⟨fun names => (hleads names).1.trans (hleads' names).1.symm, rfl, ?_⟩
  cases block with
  | none => exact .nil
  | one name => exact .cons ⟨rfl, hbound⟩ .nil
  | two name other => exact .cons ⟨rfl, fun _ => rfl⟩ (.cons ⟨rfl, hbound⟩ .nil)

/-- The places inside `with` are alike. -/
theorem Place.Alike.withPlace (h : one.Alike other)
    (hone : ∀ path, operand.location = some path → one.data.at? path = some value)
    (hother : ∀ path, operand'.location = some path → one.data.at? path = some value)
    (names : BlockParam) :
    (one.withPlace operand value names).Alike (other.withPlace operand' value names) := by
  have hlead := ofOperand_leads hone
  have hlead' := ofOperand_leads hother
  have hlocals : one.scopes.head?.map (·.locals) = other.scopes.head?.map (·.locals) := by
    rcases rel_cases h.innermost with
      ⟨hnone, hnone'⟩ | ⟨scope, scope', hsome, hsome', hscope⟩
    · rw [hnone, hnone']
    · rw [hsome, hsome', Option.map_some, Option.map_some, hscope.locals]
  refine h.enter ⟨fun rest => (hlead rest).1.trans (hlead' rest).1.symm, ?_, ?_⟩
  · rw [hlocals]
  · cases names with
    | none | two => exact .nil
    | one name => exact .cons ⟨rfl, fun rest => (hlead rest).2.trans (hlead' rest).2.symm⟩ .nil

/-- Where a value is located in the data, so are its items. -/
theorem HoldsItems.located (hitems : HoldsItems data)
    (hlocated : ∀ path, operand.location = some path → data.at? path = some value) {item : Item}
    (hitem : item ∈ itemsOf value) {path : List String} (hpath : operand.location = some path) :
    data.at? (path ++ [item.step]) = some item.value := by
  rw [at?_append, hlocated path hpath]
  exact hitems path value (hlocated path hpath) item hitem

/-- The places of the iterations of `each` are alike. -/
theorem Place.Alike.iterations (h : one.Alike other)
    (hone : ∀ path, operand.location = some path → one.data.at? path = some value)
    (hother : ∀ path, operand'.location = some path → one.data.at? path = some value)
    (hitems : HoldsItems one.data) (names : BlockParam) :
    List.Forall₂ Place.Alike (iterations one operand value names)
      (iterations other operand' value names) := by
  simp only [Template.iterations, List.mapIdx_eq_zipIdx_map, List.forall₂_map_left_iff,
    List.forall₂_map_right_iff, List.forall₂_same]
  rintro ⟨item, index⟩ hitem
  have hmem : item ∈ itemsOf value := (List.mem_zipIdx' hitem).2 ▸ List.getElem_mem _
  exact h.enter (itemScope_alike (fun _ => hitems.located hone hmem)
    (fun _ => hitems.located hother hmem) _ _ _ _)

/-- The branches are the same, with places that are alike. -/
inductive Branch.Alike : Branch → Branch → Prop
  | text (written : String) : Branch.Alike (.text written) (.text written)
  | body {places places' : List Place} (h : List.Forall₂ Place.Alike places places') :
    Branch.Alike (.body places) (.body places')
  | otherwise : Branch.Alike .otherwise .otherwise

/-- A block comes down to branches that are alike. -/
theorem Place.Alike.branch (h : one.Alike other) (hitems : HoldsItems one.data) (call : Call)
    (names : BlockParam) :
    SameUpTo Branch.Alike (call.branch names one) (call.branch names other) := by
  unfold Call.branch
  refine (h.evalParams call.params).bind fun operands operands' hoperands =>
    (h.evalHash call.hash).bind fun hash hash' hhash => ?_
  cases Helper.ofName? call.name with
  | none => exact .error _
  | some helper =>
    cases helper with
    | value helper =>
      simp only [apply_eq hoperands hhash]
      exact (SameUpTo.refl (fun _ => rfl) _).bind fun result _ hresult => by
        subst hresult
        exact .ok (.text _)
    | block helper =>
      cases helper with
      | raw => exact .ok (.body (.cons h .nil))
      | if_ | «unless» =>
        have hbody : SameUpTo Branch.Alike (.ok (.body [one])) (.ok (.body [other])) :=
          .ok (.body (.cons h .nil))
        have hinverse : SameUpTo Branch.Alike (.ok .otherwise) (.ok .otherwise) := .ok .otherwise
        refine (presentParam_alike hoperands _).bind ?_
        rintro ⟨operand, value⟩ ⟨operand', _⟩ ⟨-, rfl, -⟩
        simp only [includesZero_eq hhash]
        split
        all_goals first | exact hbody | exact hinverse
      | with_ =>
        refine (presentParam_alike hoperands _).bind ?_
        rintro ⟨operand, value⟩ ⟨operand', _⟩ ⟨hoperand, rfl, hvalue⟩
        obtain ⟨hone, hother⟩ := hoperand.located_at hvalue
        dsimp only
        split
        · exact .ok (.body (.cons (h.withPlace hone hother names) .nil))
        · exact .ok .otherwise
      | each =>
        refine (presentParam_alike hoperands _).bind ?_
        rintro ⟨operand, value⟩ ⟨operand', _⟩ ⟨hoperand, rfl, hvalue⟩
        obtain ⟨hone, hother⟩ := hoperand.located_at hvalue
        have hplaces := h.iterations hone hother hitems names
        dsimp only
        cases hone : Template.iterations one operand value names with
        | nil =>
          rw [hone, List.forall₂_nil_left_iff] at hplaces
          rw [hplaces]
          exact .ok .otherwise
        | cons first rest =>
          rw [hone, List.forall₂_cons_left_iff] at hplaces
          obtain ⟨first', rest', hfirst, hrest, hother⟩ := hplaces
          rw [hother]
          exact .ok (.body (.cons hfirst hrest))

end Scopes

/-! ## Rendering in places that are alike -/

section Elements

variable {one other : Place} (h : one.Alike other) {main : List Element}
  {visit : List Element → Place → Render Unit}

include h

theorem Place.Alike.writeText (text : String) : writeText one text = writeText other text := by
  unfold Template.writeText
  rw [h.indent]

theorem Place.Alike.current : one.current = other.current :=
  h.fromScope_value h.innermost "" []

theorem Place.Alike.renderHelper (call : Call) : renderHelper call one = renderHelper call other :=
  (h.evalParams call.params).settle_eq fun operands operands' hoperands =>
    (h.evalHash call.hash).settle_eq fun hash hash' hhash =>
      (helperValue_alike call.name hoperands hhash).settle_eq fun operand operand' hoperand => by
        rw [hoperand.valueOrNull_eq, h.writeText]

theorem Place.Alike.renderValue (param : Param) :
    renderValue param one = renderValue param other := by
  have hdisplay : (param.eval one).map (·.valueOrNull.display) =
      (param.eval other).map (·.valueOrNull.display) :=
    (h.eval param).map_eq fun operand operand' hoperand => by
      rw [hoperand.valueOrNull_eq]
  have hname : param.helperName one = param.helperName other := by
    cases param with
    | reference reference => rfl
    | literal _ | call _ _ _ => exact hdisplay
  rw [renderValue_eq, renderValue_eq, hname]
  refine bind_congr fun name => ?_
  unfold renderValueNamed
  cases Helper.ofName? name with
  | some _ => exact h.renderHelper _
  | none =>
    refine (h.eval param).settle_eq fun operand operand' hoperand => ?_
    simp only [hoperand.value, hoperand.text, h.writeText]

theorem Place.Alike.definedName (call : Call) : definedName call one = definedName call other := by
  unfold Template.definedName
  refine (h.evalParams call.params).bind_eq fun operands operands' hoperands =>
    (h.evalHash call.hash).bind_eq fun hash hash' hhash => ?_
  cases hoperands with
  | nil => rfl
  | cons hoperand _ => simp only [hoperand.value]

theorem Place.Alike.defineTemplate (call : Call) (body : Option (List Element)) :
    defineTemplate call body one = defineTemplate call body other := by
  unfold Template.defineTemplate
  rw [h.definedName]

theorem Place.Alike.defineTemplates (elements : List Element) :
    defineTemplates one elements = defineTemplates other elements := by
  induction elements with
  | nil => rfl
  | cons element rest ih =>
    cases element with
    | decorator call body => simp only [Template.defineTemplates, h.defineTemplate, ih]
    | _ => exact ih

/-- An included template stands in the same place. -/
theorem Place.Alike.includePlace {operands operands' : List Operand}
    (hoperands : List.Forall₂ (Operand.Alike one.data) operands operands')
    {hash hash' : List (String × Operand)} (hhash : List.Forall₂ (NamedAlike one.data) hash hash')
    (indent : Indent) (isMain : Bool) (bodies : List (List Element)) :
    includePlace one operands hash indent isMain bodies =
      includePlace other operands' hash' indent isMain bodies := by
  unfold Template.includePlace
  simp only [overlayContext_eq hhash, h.data, h.current]
  cases hoperands with
  | nil => rfl
  | cons hoperand _ => simp only [hoperand.value]

theorem Place.Alike.renderInclude (name : PartialName) (params : List Param)
    (hash : List (String × Param)) (indent : Indent) (body : Option (List Element)) :
    renderInclude main visit name params hash indent body one =
      renderInclude main visit name params hash indent body other := by
  have hname : name.text one = name.text other := by
    cases name with
    | word word => rfl
    | computed param =>
      exact (h.eval param).map_eq fun operand operand' hoperand => by
        rw [hoperand.valueOrNull_eq]
  rw [renderInclude_eq, renderInclude_eq, hname]
  refine bind_congr fun word => ?_
  unfold renderNamed
  refine (h.evalParams params).settle_eq fun operands operands' hoperands =>
    (h.evalHash hash).settle_eq fun hash hash' hhash => ?_
  have hfound : ∀ found, visitFound visit word operands hash indent body one found =
      visitFound visit word operands' hash' indent body other found := by
    intro found
    cases found with
    | none => rfl
    | some found => simp only [visitFound, h.bodies, h.includePlace hoperands hhash]
  have hfind : ∀ partials, findTemplate main one partials word body =
      findTemplate main other partials word body := by
    intro partials
    unfold findTemplate
    rw [h.bodies]
  simp only [h.defineTemplates, h.isMain, hfound, hfind]

end Elements

theorem forM_alike {step : Place → Render Unit} {places places' : List Place}
    (h : List.Forall₂ Place.Alike places places')
    (hstep : ∀ one ∈ places, ∀ other, one.Alike other → step one = step other) :
    places.forM step = places'.forM step := by
  induction h with
  | nil => rfl
  | cons hplace _ ih =>
    rw [List.forall_mem_cons] at hstep
    exact congrArg₂ (fun first rest => do first; rest) (hstep.1 _ hplace) (ih hstep.2)

-- The induction is on the elements; the places that a block opens are alike again.
mutual

/-- **Rendering does not tell places apart that are alike.** -/
theorem renderElement_alike {data : Json} (hdata : HoldsItems data) {main : List Element}
    {visit : List Element → Place → Render Unit} (element : Element) {one other : Place}
    (hone : one.data = data) (h : one.Alike other) :
    renderElement main visit element one = renderElement main visit element other := by
  match element with
  | .text text =>
    simp only [renderElement]
    exact h.writeText text
  | .value param =>
    simp only [renderElement]
    exact h.renderValue param
  | .helper call =>
    simp only [renderElement]
    exact h.renderHelper call
  | .decorator call body =>
    simp only [renderElement]
    exact h.defineTemplate call body
  | .include name params hash indent body =>
    simp only [renderElement]
    exact h.renderInclude name params hash indent body
  | .block call names body inverse =>
    rw [renderBlock_branch, renderBlock_branch]
    refine (h.branch (hone ▸ hdata) call names).and_ok.settle_eq fun branch branch' hbranch => ?_
    obtain ⟨hcall, hbranch⟩ := hbranch
    cases hbranch with
    | text written => exact h.writeText written
    | body hplaces =>
      exact forM_alike hplaces fun inner hmem other hinner =>
        renderElements_alike hdata body ((branch_data hcall inner hmem).trans hone) hinner
    | otherwise => exact renderInverse_alike hdata inverse hone h

theorem renderInverse_alike {data : Json} (hdata : HoldsItems data) {main : List Element}
    {visit : List Element → Place → Render Unit} (inverse : Option (List Element))
    {one other : Place} (hone : one.data = data) (h : one.Alike other) :
    renderInverse main visit inverse one = renderInverse main visit inverse other := by
  match inverse with
  | none => simp only [renderInverse]
  | some elements =>
    simp only [renderInverse]
    exact renderElements_alike hdata elements hone h

theorem renderElements_alike {data : Json} (hdata : HoldsItems data) {main : List Element}
    {visit : List Element → Place → Render Unit} (elements : List Element) {one other : Place}
    (hone : one.data = data) (h : one.Alike other) :
    renderElements main visit elements one = renderElements main visit elements other := by
  match elements with
  | [] => simp only [renderElements]
  | element :: rest =>
    simp only [renderElements]
    rw [renderElement_alike hdata element hone h, renderElements_alike hdata rest hone h]

end

end Template

end Pipewright
