import Pipewright.Proofs.CommandLine.Reading

set_option autoImplicit false

/-! # Reading without tests

The tests of an option's values decide whether a command line is read, but not how: without them the
same options have the same values. `Level.untested` is a level whose options take any text where
they have a test. **Where a command line can be read without tests, it is read with them to the same
values if they all pass, and else a complaint about one of them is the fault** (`readAll_sifts`). -/

namespace Pipewright.CommandLine

/-! ## Leaving the tests out -/

def Rule.untested : Rule → Rule
  | .tested _ => .text
  | rule => rule

def Arity.untested : Arity → Arity
  | .single label rule => .single label rule.untested
  | .repeated label rule => .repeated label rule.untested
  | arity => arity

def Opt.untested (opt : Opt) : Opt := { opt with arity := opt.arity.untested }

def Level.untested (level : Level) : Level := { level with opts := level.opts.map Opt.untested }

def Given.untested (given : Given) : Given :=
  { given with pending := given.pending.map fun (opt, value) => (opt.untested, value) }

/-- What the test of a rule says about a value. -/
def Rule.complaint? (value : String) : Rule → Option String
  | .tested complaint? => complaint? value
  | _ => none

def Opt.complaint? (opt : Opt) (value : String) : Option String :=
  match opt.arity with
  | .single _ rule | .repeated _ rule => rule.complaint? value
  | _ => none

/-- Where there is no fault without the test, the complaint is the fault. -/
theorem Rule.fault?_of_untested {rule : Rule} {opt value : String}
    (h : rule.untested.fault? opt value = none) :
    rule.fault? opt value = (rule.complaint? value).map (.invalidValue value opt) := by
  cases rule with
  | path => exact h
  | text | tested _ => rfl

@[simp] theorem Opt.untested_name (opt : Opt) : opt.untested.name = opt.name := rfl

theorem Opt.untested_arity (opt : Opt) : opt.untested.arity = opt.arity.untested := rfl

@[simp] theorem Opt.untested_display (opt : Opt) : opt.untested.display = opt.display := by
  rcases opt with ⟨name, letter, _ | _ | _ | _, isRequired⟩ <;> rfl

@[simp] theorem takesValue_untested (opt : Opt) : takesValue opt.untested = takesValue opt := by
  rcases opt with ⟨name, letter, _ | _ | _ | _, isRequired⟩ <;> rfl

@[simp] theorem Given.untested_values (given : Given) : given.untested.values = given.values := rfl

@[simp] theorem Given.untested_has (given : Given) (name : String) :
    given.untested.has name = given.has name := rfl

@[simp] theorem Given.untested_isWaiting (given : Given) :
    given.untested.isWaiting = given.isWaiting := by
  rcases given with ⟨values, _ | ⟨opt, _ | value⟩⟩ <;> rfl

theorem Level.untested_byName? (level : Level) (name : String) :
    level.untested.byName? name = (level.byName? name).map Opt.untested := List.find?_map ..

theorem Level.untested_byLetter? (level : Level) (letter : Char) :
    level.untested.byLetter? letter = (level.byLetter? letter).map Opt.untested := List.find?_map ..

/-! ## Sifting -/

/-- The option that is waiting, if any, is one of the level. -/
def Given.Within (level : Level) (given : Given) : Prop :=
  ∀ pending ∈ given.pending, pending.1 ∈ level.opts

/-- The value passes the test of an option of this name. -/
def Level.Admits (level : Level) (value : String × String) : Prop :=
  ∃ opt ∈ level.opts, opt.name = value.1 ∧ opt.complaint? value.2 = none

/-- The fault is a complaint about one of the values. -/
def Level.Complains (level : Level) (given : Given) (halt : Halt) : Prop :=
  ∃ opt ∈ level.opts, ∃ value complaint, (opt.name, value) ∈ given.values ∧
    opt.complaint? value = some complaint ∧
    halt = .usage (.invalidValue value opt.display complaint)

/-- Where reading without tests comes to a state, reading comes to the same state if all values that
    it adds pass their tests, and ends with a complaint about one of them if not. -/
def Sifts (level : Level) (before : Given) (read : Except Halt Given) (loose : Given) : Prop :=
  ∃ given, given.untested = loose ∧ given.Within level ∧ before.values ⊆ given.values ∧
    ((read = .ok given ∧
        ∀ value ∈ given.values, value ∈ before.values ∨ level.Admits value) ∨
      ∃ halt, read = .error halt ∧ level.Complains given halt)

section Sifting

variable {level : Level} {before given middle loose : Given} {opt : Opt} {value : String}
  {read : Except Halt Given}

theorem Sifts.ok (hwithin : given.Within level) : Sifts level given (.ok given) given.untested :=
  ⟨given, rfl, hwithin, List.Subset.refl _, .inl ⟨rfl, fun _ => .inl⟩⟩

/-- Readings that sift, one after the other, sift. -/
theorem Sifts.bind {next : Given → Except Halt Given} (h : Sifts level before read middle)
    (hnext : ∀ given, given.untested = middle → given.Within level →
      Sifts level given (next given) loose) :
    Sifts level before (read >>= next) loose := by
  obtain ⟨first, hfirst, hwithin, hsubset, hread⟩ := h
  obtain ⟨given, hgiven, hinner, hmore, hrest⟩ := hnext first hfirst hwithin
  refine ⟨given, hgiven, hinner, List.Subset.trans hsubset hmore, ?_⟩
  rcases hread with ⟨rfl, hadmits⟩ | ⟨halt, rfl, opt, hopt, value, complaint, hmem, hsays⟩
  · rcases hrest with ⟨hok, hlater⟩ | herror
    · refine .inl ⟨hok, fun value hvalue => ?_⟩
      rcases hlater value hvalue with hold | hpasses
      · exact hadmits value hold
      · exact .inr hpasses
    · exact .inr herror
  · -- the value that is complained about has been read all the same
    exact .inr ⟨halt, rfl, opt, hopt, value, complaint, hmore hmem, hsays⟩

/-- An option takes a value that it would take without tests, unless it has a complaint. -/
theorem take_of_untested (h : take opt.untested value given.untested = .ok loose) :
    take opt value given = (opt.complaint? value).elim (.ok (given.add opt value))
      fun complaint => .error (.usage (.invalidValue value opt.display complaint)) := by
  unfold take at h ⊢
  rw [Opt.untested_arity] at h
  simp only [Opt.untested_name, Opt.untested_display, Given.untested_has] at h
  unfold Opt.complaint?
  generalize opt.arity = arity at h ⊢
  cases arity with
  | flag =>
    by_cases hnew : given.has opt.name = true
    · simp [Arity.untested, hnew] at h
    · exact if_neg hnew
  | count => rfl
  | single label rule =>
    by_cases hnew : given.has opt.name = true
    · simp [Arity.untested, hnew] at h
    · simp only [Arity.untested, if_neg hnew] at h ⊢
      split at h
      · cases h
      · next hfault =>
        rw [Rule.fault?_of_untested hfault]
        cases rule.complaint? value <;> rfl
  | repeated label rule =>
    simp only [Arity.untested] at h ⊢
    split at h
    · cases h
    · next hfault =>
      rw [Rule.fault?_of_untested hfault]
      cases rule.complaint? value <;> rfl

theorem take_sifts (hopt : opt ∈ level.opts) (hwithin : given.Within level)
    (h : take opt.untested value given.untested = .ok loose) :
    Sifts level given (take opt value given) loose := by
  obtain rfl : loose = (given.add opt value).untested := take_eq_ok h
  have htake := take_of_untested h
  refine ⟨given.add opt value, rfl, hwithin, List.subset_append_left _ _, ?_⟩
  rw [htake]
  cases hcomplaint : opt.complaint? value with
  | some complaint =>
    exact .inr ⟨_, rfl, opt, hopt, value, complaint, by simp [Given.add], hcomplaint, rfl⟩
  | none =>
    refine .inl ⟨rfl, fun other hother => ?_⟩
    rcases List.mem_append.1 hother with hold | hnew
    · exact .inl hold
    · obtain rfl := List.mem_singleton.1 hnew
      exact .inr ⟨opt, hopt, rfl, hcomplaint⟩

theorem settle_sifts (hwithin : given.Within level) (h : settle given.untested = .ok loose) :
    Sifts level given (settle given) loose := by
  rcases given with ⟨values, _ | ⟨opt, _ | value⟩⟩
  · cases h
    exact .ok hwithin
  · cases h
  · have hnone : Given.Within level ⟨values, none⟩ := by simp [Given.Within]
    exact take_sifts (hwithin (opt, some value) rfl) hnone h

theorem takeNow_sifts (hopt : opt ∈ level.opts) (hwithin : given.Within level)
    (h : takeNow opt.untested value given.untested = .ok loose) :
    Sifts level given (takeNow opt value given) loose := by
  obtain ⟨middle, hsettle, htake⟩ := Except.bind_ok_iff.1 h
  refine (settle_sifts hwithin hsettle).bind fun settled hsettled hinner => ?_
  rw [← hsettled] at htake
  exact take_sifts hopt hinner htake

theorem await_sifts (hopt : opt ∈ level.opts) (hwithin : given.Within level)
    (h : await opt.untested given.untested = .ok loose) :
    Sifts level given (await opt given) loose := by
  obtain ⟨middle, hsettle, hawait⟩ := Except.bind_ok_iff.1 h
  refine (settle_sifts hwithin hsettle).bind fun settled hsettled _ => ?_
  cases hawait
  refine ⟨{ settled with pending := some (opt, none) }, by rw [← hsettled]; rfl, ?_,
    List.Subset.refl _, .inl ⟨rfl, fun _ => .inl⟩⟩
  rintro pending ⟨⟩
  exact hopt

/-! ## Reading -/

theorem Level.mem_of_byName? {name : String} (h : level.byName? name = some opt) :
    opt ∈ level.opts := List.mem_of_find?_eq_some h

theorem Level.mem_of_byLetter? {letter : Char} (h : level.byLetter? letter = some opt) :
    opt ∈ level.opts := List.mem_of_find?_eq_some h

theorem readLong_sifts (cs : List Char) (hwithin : given.Within level)
    (h : readLong level.untested cs given.untested = .ok loose) :
    Sifts level given (readLong level cs given) loose := by
  unfold readLong at h ⊢
  generalize splitLong cs = split at h ⊢
  obtain ⟨name, attached⟩ := split
  dsimp only at h ⊢
  rw [Level.untested_byName?] at h
  cases hopt : level.byName? name with
  | none =>
    rw [hopt] at h
    dsimp only [Option.map_none] at h
    split at h
    · cases h
    · split at h <;> cases h
  | some opt =>
    rw [hopt] at h
    have hmem := Level.mem_of_byName? hopt
    simp only [Option.map_some, takesValue_untested] at h
    cases attached with
    | none =>
      cases hvalue : takesValue opt with
      | true =>
        simp only [hvalue, if_true] at h ⊢
        exact await_sifts hmem hwithin h
      | false =>
        simp only [hvalue, Bool.false_eq_true, if_false] at h ⊢
        exact takeNow_sifts hmem hwithin h
    | some value =>
      cases hvalue : takesValue opt with
      | true =>
        simp only [hvalue, if_true] at h ⊢
        exact takeNow_sifts hmem hwithin h
      | false =>
        simp only [hvalue, Bool.false_eq_true, if_false] at h
        cases h

theorem readLetters_sifts (cs : List Char) (hwithin : given.Within level)
    (h : readLetters level.untested cs given.untested = .ok loose) :
    Sifts level given (readLetters level cs given) loose := by
  induction cs generalizing given with
  | nil =>
    cases h
    exact .ok hwithin
  | cons c rest ih =>
    rw [readLetters] at h ⊢
    rw [Level.untested_byLetter?] at h
    cases hopt : level.byLetter? c with
    | none =>
      rw [hopt] at h
      dsimp only [Option.map_none] at h
      split at h
      · cases h
      · split at h <;> cases h
    | some opt =>
      rw [hopt] at h
      have hmem := Level.mem_of_byLetter? hopt
      simp only [Option.map_some, takesValue_untested] at h
      cases hvalue : takesValue opt with
      | true =>
        simp only [hvalue, if_true] at h ⊢
        split at h
        · exact await_sifts hmem hwithin h
        · exact takeNow_sifts hmem hwithin h
        · exact takeNow_sifts hmem hwithin h
      | false =>
        simp only [hvalue, Bool.false_eq_true, if_false] at h ⊢
        obtain ⟨middle, htake, hrest⟩ := Except.bind_ok_iff.1 h
        refine (takeNow_sifts hmem hwithin htake).bind fun taken htaken hinner => ?_
        rw [← htaken] at hrest
        exact ih hinner hrest

/-- What has been read at the end of the walk is sifted, whatever it has found there. -/
theorem walk_sifts {isBehindDashes : Bool} {arguments : List String}
    {found : Option (String × List String)} (hwithin : given.Within level)
    (h : walk level.untested isBehindDashes arguments given.untested = .ok (loose, found)) :
    Sifts level given ((walk level isBehindDashes arguments given).map Prod.fst) loose := by
  have hend : ∀ {given : Given} {last : Option (String × List String)}, given.Within level →
      (settle given.untested >>= fun settled => pure (settled, last)) = .ok (loose, found) →
      Sifts level given
        ((settle given >>= fun settled => pure (settled, last) : Except Halt _).map Prod.fst)
        loose := by
    intro given last hgiven hread
    obtain ⟨settled, hsettle, hdone⟩ := Except.bind_ok_iff.1 hread
    cases hdone
    rw [Except.map_bind]
    exact (settle_sifts hgiven hsettle).bind fun settled hsettled hinner =>
      hsettled ▸ Sifts.ok hinner
  induction arguments generalizing isBehindDashes given with
  | nil => exact hend hwithin h
  | cons argument arguments ih =>
    have hgoes : ∀ {read unread : Except Halt Given},
        (∀ {middle}, unread = .ok middle → Sifts level given read middle) →
        (unread >>= walk level.untested false arguments) = .ok (loose, found) →
        Sifts level given ((read >>= walk level false arguments).map Prod.fst) loose := by
      intro read unread hfirst hread
      obtain ⟨middle, hunread, hrest⟩ := Except.bind_ok_iff.1 hread
      rw [Except.map_bind]
      refine (hfirst hunread).bind fun next hnext hinner => ?_
      rw [← hnext] at hrest
      exact ih hinner hrest
    have hcommands : level.untested.commands = level.commands := rfl
    rw [walk] at h ⊢
    rw [hcommands, Given.untested_isWaiting] at h
    cases isBehindDashes with
    | true => cases h
    | false =>
      simp only [Bool.false_eq_true, if_false] at h ⊢
      split at h
      · next hname =>
        rw [if_pos hname]
        exact hend hwithin h
      · next hname =>
        rw [if_neg hname]
        split at h
        · exact ih hwithin h
        · exact hgoes (readLong_sifts _ hwithin) h
        · exact hgoes (readLetters_sifts _ hwithin) h
        · rcases given with ⟨values, _ | ⟨opt, _ | value⟩⟩
          · cases h
          · have hfilled : Given.Within level ⟨values, some (opt, some argument)⟩ := by
              rintro pending ⟨⟩
              exact hwithin (opt, none) rfl
            exact ih hfilled h
          · cases h

/-- The options that are required are the same without tests. -/
theorem Level.missing_untested (level : Level) (given : Given) :
    level.untested.opts.filter (fun opt => opt.isRequired && !given.untested.has opt.name) =
      (level.opts.filter fun opt => opt.isRequired && !given.has opt.name).map Opt.untested :=
  List.filter_map

/-- **Tests only sift.** -/
theorem readAll_sifts {arguments : List String}
    (h : readAll level.untested arguments = .ok loose) :
    Sifts level .empty (readAll level arguments) loose := by
  rw [readAll_eq] at h ⊢
  obtain ⟨middle, hwalk, hrequired⟩ := Except.bind_ok_iff.1 h
  obtain ⟨⟨middle, found⟩, hread, rfl⟩ := Except.map_ok_iff.1 hwalk
  have hempty : Given.Within level .empty := by simp [Given.Within, Given.empty]
  refine (walk_sifts hempty hread).bind fun given hgiven hinner => ?_
  obtain rfl : given.untested = middle := hgiven
  dsimp only at hrequired
  rw [Level.missing_untested, List.isEmpty_map] at hrequired
  split at hrequired
  · next hnone =>
    cases hrequired
    dsimp only
    rw [if_pos hnone]
    exact .ok hinner
  · cases hrequired

end Sifting

end Pipewright.CommandLine
