import Mathlib.Data.List.TakeWhile
import Pipewright.CommandLine.Grammar
import Pipewright.Proofs.Json.Reading

set_option autoImplicit false

/-! # Reading arguments

What stands behind arguments that can be read is read from where these end (`walk_append`). So
options that take any text and may be repeated can be given behind them, as often as one likes, and
have just these texts in their order (`walk_attached`). -/

namespace Pipewright.CommandLine

variable {level : Level} {opt : Opt} {given settled : Given}

theorem take_eq_ok {value : String} (h : take opt value given = .ok settled) :
    settled = given.add opt value := by
  unfold take at h
  split at h
  · cases h
    rfl
  · split at h
    · cases h
    · cases h
      rfl
  · split at h
    · cases h
    · split at h
      · cases h
      · cases h
        rfl
  · split at h
    · cases h
    · cases h
      rfl

/-- Nothing is pending when it is settled. -/
theorem settle_pending (h : settle given = .ok settled) : settled.pending = none := by
  rcases given with ⟨values, _ | ⟨opt, _ | value⟩⟩
  · cases h
    rfl
  · cases h
  · rw [take_eq_ok h]
    rfl

/-- What stands behind arguments that can be read goes on from where they end. -/
theorem walk_append (hcommands : level.commands = []) {arguments : List String}
    (hdashes : "--" ∉ arguments) {found : Option (String × List String)}
    (h : walk level false arguments given = .ok (settled, found)) :
    ∃ last, settle last = .ok settled ∧
      ∀ more, walk level false (arguments ++ more) given = walk level false more last := by
  induction arguments generalizing given with
  | nil =>
    obtain ⟨_, hsettle, hdone⟩ := Except.bind_ok_iff.1 h
    cases hdone
    exact ⟨given, hsettle, fun _ => rfl⟩
  | cons argument rest ih =>
    have hmore : "--" ∉ rest := fun hmem => hdashes (List.mem_cons_of_mem _ hmem)
    have hgoes : ∀ {read : Except Halt Given},
        (read >>= walk level false rest) = .ok (settled, found) →
        ∃ last, settle last = .ok settled ∧
          ∀ more, (read >>= walk level false (rest ++ more)) = walk level false more last := by
      intro read hread
      obtain ⟨middle, rfl, hrest⟩ := Except.bind_ok_iff.1 hread
      exact ih hmore hrest
    simp only [List.cons_append, walk, hcommands, List.contains_nil, Bool.and_false,
      Bool.false_eq_true, if_false] at h ⊢
    split at h
    · next hboth =>
      obtain rfl : argument = "--" := String.toList_inj.1 hboth
      exact absurd List.mem_cons_self hdashes
    · exact hgoes h
    · exact hgoes h
    · rcases given with ⟨values, _ | ⟨opt, _ | value⟩⟩
      · cases h
      · exact ih hmore h
      · cases h

/-! ## Attached values -/

section Signs

variable {cs : List Char} (h : '=' ∉ cs) (rest : List Char)

include h

omit rest in
theorem ne_sign : ∀ c ∈ cs, decide (c ≠ '=') = true := fun c hc => by
  simpa using fun heq : c = '=' => h (heq ▸ hc)

theorem takeWhile_sign : (cs ++ '=' :: rest).takeWhile (fun c => decide (c ≠ '=')) = cs := by
  rw [List.takeWhile_append_of_pos (ne_sign h)]
  simp

theorem dropWhile_sign :
    (cs ++ '=' :: rest).dropWhile (fun c => decide (c ≠ '=')) = '=' :: rest := by
  rw [List.dropWhile_append_of_pos (ne_sign h)]
  simp

end Signs

/-- A list is divided at its first equals sign. -/
theorem split_sign {cs behind : List Char} {sign : Char}
    (h : cs.dropWhile (fun c => decide (c ≠ '=')) = sign :: behind) :
    cs = cs.takeWhile (fun c => decide (c ≠ '=')) ++ '=' :: behind ∧
      '=' ∉ cs.takeWhile fun c => decide (c ≠ '=') := by
  have hstop := List.head?_dropWhile_not (fun c => decide (c ≠ '=')) cs
  rw [h] at hstop
  obtain rfl : sign = '=' := by simpa using hstop
  refine ⟨?_, fun hsign => by simpa using List.mem_takeWhile_imp hsign⟩
  rw [← h, List.takeWhile_append_dropWhile]

theorem splitLong_attached {name : String} (hname : '=' ∉ name.toList) (value : String) :
    splitLong (name.toList ++ '=' :: value.toList) = (name, some value) := by
  unfold splitLong
  rw [dropWhile_sign hname, takeWhile_sign hname]
  simp

/-- An option that is repeated takes the texts that are attached to it, in their order. -/
theorem walk_attached {label : String} (hcommands : level.commands = [])
    (hopt : level.byName? opt.name = some opt) (harity : opt.arity = .repeated label .text)
    (hname : '=' ∉ opt.name.toList) (texts : List String) (h : settle given = .ok settled) :
    walk level false (texts.map fun text => "--" ++ opt.name ++ "=" ++ text) given =
      .ok ({ settled with values := settled.values ++ texts.map fun text => (opt.name, text) },
        none) := by
  induction texts generalizing given settled with
  | nil =>
    rw [List.map_nil, walk, h]
    simp
  | cons text rest ih =>
    have hargument : ("--" ++ opt.name ++ "=" ++ text).toList =
        '-' :: '-' :: (opt.name.toList ++ '=' :: text.toList) := by simp
    have hvalue : takesValue opt = true := by
      unfold takesValue
      rw [harity]
    have htake : take opt text settled = .ok (settled.add opt text) := by
      unfold take
      rw [harity]
      rfl
    have hread : readLong level (opt.name.toList ++ '=' :: text.toList) given =
        .ok (settled.add opt text) := by
      unfold readLong
      rw [splitLong_attached hname]
      simp only [hopt, hvalue, if_true, takeNow, h]
      exact htake
    have hsettled : settle (settled.add opt text) = .ok (settled.add opt text) := by
      unfold settle Given.add
      rw [settle_pending h]
    have hnames : opt.name.toList ++ '=' :: text.toList ≠ [] := by simp
    rw [List.map_cons, walk, hcommands, hargument]
    simp only [Bool.false_eq_true, if_false, List.contains_nil, Bool.and_false]
    rw [hread]
    exact (ih hsettled).trans (by simp [Given.add])

/-! ## Whole command lines -/

theorem readAll_eq (level : Level) (arguments : List String) :
    readAll level arguments = (walk level false arguments .empty).map Prod.fst >>= fun given =>
      let missing := level.opts.filter fun opt => opt.isRequired && !given.has opt.name
      if missing.isEmpty then .ok given
      else .error (.usage (.missingOptions (missing.map Opt.display))) := by
  unfold readAll
  rcases walk level false arguments .empty with _ | ⟨given, found⟩
  · rfl
  · simp only [Except.map, bind, Except.bind]
    split <;> rfl

theorem readAll_eq_ok_iff {level : Level} {arguments : List String} {given : Given} :
    readAll level arguments = .ok given ↔
      (∃ found, walk level false arguments .empty = .ok (given, found)) ∧
        ∀ opt ∈ level.opts, opt.isRequired = true → given.has opt.name = true := by
  have hmissing : ∀ given : Given,
      (level.opts.filter fun opt => opt.isRequired && !given.has opt.name).isEmpty = true ↔
        ∀ opt ∈ level.opts, opt.isRequired = true → given.has opt.name = true := by
    simp [List.isEmpty_iff, List.filter_eq_nil_iff]
  rw [readAll_eq, Except.bind_ok_iff]
  constructor
  · rintro ⟨middle, hwalk, hrequired⟩
    obtain ⟨⟨first, found⟩, hread, rfl⟩ := Except.map_ok_iff.1 hwalk
    dsimp only at hrequired
    split at hrequired
    · next hnone =>
      cases hrequired
      exact ⟨⟨found, hread⟩, (hmissing _).1 hnone⟩
    · cases hrequired
  · rintro ⟨⟨found, hwalk⟩, hrequired⟩
    refine ⟨given, Except.map_ok_iff.2 ⟨_, hwalk, rfl⟩, ?_⟩
    exact if_pos ((hmissing given).2 hrequired)

end Pipewright.CommandLine
