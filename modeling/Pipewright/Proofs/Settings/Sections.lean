import Pipewright.Proofs.Settings.Parts
import Pipewright.Settings.Conversion

set_option autoImplicit false

/-! # Settings that entries make up

A field takes its value from an entry, if there is one that converts to its kind, and else from the
default (`FieldKind.Takes`). The fields of a section do so one by one: whether the section can be
made, and what each of its fields holds, depends on the entry of each field alone
(`sectionUnder_eq_ok_iff`).

The documented settings of the tool are the fields of its four sections
(`ToolSettings.documented`), and the settings that an entry makes up are described by what each of
them takes (`ToolSettings.ofEntry?_eq_ok_iff`). -/

namespace Pipewright

namespace Settings

variable {σ τ : Type}

/-! ## Fields -/

namespace FieldKind

/-- The value of an entry for a field of this kind. -/
def convert (key : String) (entry : Entry) : (kind : FieldKind σ) → Except Mismatch kind.Value
  | .text .. => entry.toText? key
  | .flag .. => entry.toFlag? key
  | .word .. => entry.toWord? key
  | .optionalText .. => Entry.optional (Entry.toText? key) entry
  | .optionalPath .. => Entry.optional (Entry.toText? key) entry
  | .optionalWord .. => Entry.optional (Entry.toWord? key) entry

theorem assign_eq (key : String) (entry : Entry) (s : σ) (kind : FieldKind σ) :
    kind.assign key entry s = (kind.convert key entry).map (kind.put · s) := by
  cases kind <;> rfl

/-- The entry, if there is one, has a value for a field of this kind. -/
def Converts (kind : FieldKind σ) (key : String) (winner : Option Entry) : Prop :=
  ∀ entry ∈ winner, ∃ value, kind.convert key entry = .ok value

/-- The field has the value of the entry, and the default if there is none. -/
def Takes (kind : FieldKind σ) (key : String) (default : σ) (winner : Option Entry) (s : σ) :
    Prop :=
  match winner with
  | none => kind.get s = kind.get default
  | some entry => kind.convert key entry = .ok (kind.get s)

variable {kind : FieldKind σ} {key : String} {default s t : σ} {winner : Option Entry}

instance : (kind : FieldKind σ) → DecidableEq kind.Value
  | .text .. => inferInstanceAs (DecidableEq String)
  | .flag .. => inferInstanceAs (DecidableEq Bool)
  | .word .. => inferInstanceAs (DecidableEq Nat)
  | .optionalText .. => inferInstanceAs (DecidableEq (Option String))
  | .optionalPath .. => inferInstanceAs (DecidableEq (Option String))
  | .optionalWord .. => inferInstanceAs (DecidableEq (Option Nat))

instance : Decidable (kind.Takes key default winner s) :=
  match winner with
  | none => inferInstanceAs (Decidable (kind.get s = kind.get default))
  | some entry => inferInstanceAs (Decidable (kind.convert key entry = .ok (kind.get s)))

theorem Takes.converts (h : kind.Takes key default winner s) : kind.Converts key winner := by
  rintro entry rfl
  exact ⟨_, h⟩

/-- The entry and the default determine the value. -/
theorem Takes.unique (hs : kind.Takes key default winner s)
    (ht : kind.Takes key default winner t) : kind.get s = kind.get t := by
  cases winner with
  | none => exact Eq.trans hs (Eq.symm ht)
  | some entry => exact Except.ok.inj (Eq.trans (Eq.symm hs) ht)

/-- The default counts only for the field itself. -/
theorem Takes.of_default (hs : kind.Takes key t winner s)
    (heq : kind.get t = kind.get default) : kind.Takes key default winner s := by
  cases winner with
  | none => exact Eq.trans hs heq
  | some entry => exact hs

/-- A field of a section, seen from what the section is part of. -/
def within (get : τ → σ) (put : σ → τ → τ) : FieldKind σ → FieldKind τ
  | .text inner set => .text (fun t => inner (get t)) fun v t => put (set v (get t)) t
  | .flag inner set => .flag (fun t => inner (get t)) fun v t => put (set v (get t)) t
  | .word inner set => .word (fun t => inner (get t)) fun v t => put (set v (get t)) t
  | .optionalText inner set =>
    .optionalText (fun t => inner (get t)) fun v t => put (set v (get t)) t
  | .optionalPath inner set =>
    .optionalPath (fun t => inner (get t)) fun v t => put (set v (get t)) t
  | .optionalWord inner set =>
    .optionalWord (fun t => inner (get t)) fun v t => put (set v (get t)) t

theorem takes_within (get : τ → σ) (put : σ → τ → τ) (kind : FieldKind σ) (default t : τ) :
    (kind.within get put).Takes key default winner t ↔
      kind.Takes key (get default) winner (get t) := by
  cases kind <;> cases winner <;> exact Iff.rfl

theorem converts_within (get : τ → σ) (put : σ → τ → τ) (kind : FieldKind σ) :
    (kind.within get put).Converts key winner ↔ kind.Converts key winner := by
  cases kind <;> exact Iff.rfl

end FieldKind

/-! ## Sections -/

section Section

variable {all fields : List (SectionField σ)} {key : String} {members : List (String × Entry)}
  {s t : σ}

/-- What a table says of a field. -/
def SectionField.Takes (key : String) (members : List (String × Entry)) (default s : σ)
    (field : SectionField σ) : Prop :=
  field.kind.Takes (key ++ "." ++ field.name) default (Dictionary.get? field.name members) s

theorem Lawful.fieldNames (h : Lawful (all.map SectionField.part)) :
    (all.map (·.name)).Nodup := by
  have hnames := h.names
  rwa [List.map_map] at hnames

theorem Lawful.get_put_field (h : Lawful (all.map SectionField.part)) {field : SectionField σ}
    (hfield : field ∈ all) (value : field.kind.Value) (s : σ) :
    field.kind.get (field.kind.put value s) = value :=
  h.get_put field.part (List.mem_map_of_mem hfield) value s

theorem Lawful.get_put_other (h : Lawful (all.map SectionField.part)) {field other : SectionField σ}
    (hfield : field ∈ all) (hother : other ∈ all) (hne : other.name ≠ field.name)
    (value : other.kind.Value) (s : σ) :
    field.kind.get (other.kind.put value s) = field.kind.get s :=
  h.get_put_of_ne field.part (List.mem_map_of_mem hfield) other.part
    (List.mem_map_of_mem hother) hne value s

/-- A field whose entry has a value is given it, and one without an entry is passed over. -/
theorem assignNamed_cons (field : SectionField σ) (rest : List (SectionField σ)) :
    assignNamed key members (field :: rest) s =
      match Dictionary.get? field.name members with
      | none => assignNamed key members rest s
      | some entry => (field.kind.convert (key ++ "." ++ field.name) entry) >>= fun value =>
          assignNamed key members rest (field.kind.put value s) := by
  rw [assignNamed]
  cases Dictionary.get? field.name members with
  | none => rfl
  | some entry =>
    simp only [FieldKind.assign_eq]
    cases field.kind.convert (key ++ "." ++ field.name) entry <;> rfl

/-- Fields that are not in the list stay as they are. -/
theorem assignNamed_keeps (hlawful : Lawful (all.map SectionField.part))
    (hsub : ∀ field ∈ fields, field ∈ all) {field : SectionField σ} (hfield : field ∈ all)
    (habsent : field.name ∉ fields.map (·.name))
    (h : assignNamed key members fields s = .ok t) : field.kind.get t = field.kind.get s := by
  induction fields generalizing s with
  | nil =>
    cases h
    rfl
  | cons first rest ih =>
    rw [List.forall_mem_cons] at hsub
    rw [List.map_cons, List.mem_cons, not_or] at habsent
    rw [assignNamed_cons] at h
    split at h
    · exact ih hsub.2 habsent.2 h
    · obtain ⟨value, -, hrest⟩ := Except.bind_ok_iff.mp h
      exact (ih hsub.2 habsent.2 hrest).trans
        (hlawful.get_put_other hfield hsub.1 (Ne.symm habsent.1) value s)

/-- Each field in the list takes its value. -/
theorem assignNamed_takes (hlawful : Lawful (all.map SectionField.part))
    (hsub : ∀ field ∈ fields, field ∈ all) (hnames : (fields.map (·.name)).Nodup)
    (h : assignNamed key members fields s = .ok t) :
    ∀ field ∈ fields, field.Takes key members s t := by
  induction fields generalizing s with
  | nil => nofun
  | cons first rest ih =>
    rw [List.forall_mem_cons] at hsub ⊢
    obtain ⟨hfirst, hrestNames⟩ := List.nodup_cons.mp hnames
    rw [assignNamed_cons] at h
    cases hentry : Dictionary.get? first.name members with
    | none =>
      rw [hentry] at h
      refine ⟨?_, ih hsub.2 hrestNames h⟩
      rw [SectionField.Takes, hentry]
      exact assignNamed_keeps hlawful hsub.2 hsub.1 hfirst h
    | some entry =>
      simp only [hentry] at h
      obtain ⟨value, hvalue, hrest⟩ := Except.bind_ok_iff.mp h
      refine ⟨?_, fun field hfield => ?_⟩
      · have hget : first.kind.get t = value :=
          (assignNamed_keeps hlawful hsub.2 hsub.1 hfirst hrest).trans
            (hlawful.get_put_field hsub.1 value s)
        rw [SectionField.Takes, hentry]
        exact hvalue.trans (congrArg Except.ok hget.symm)
      · have hne : first.name ≠ field.name := fun heq =>
          hfirst (List.mem_map.mpr ⟨field, hfield, heq.symm⟩)
        exact (ih hsub.2 hrestNames hrest field hfield).of_default
          (hlawful.get_put_other (hsub.2 field hfield) hsub.1 hne value s)

theorem assignNamed_succeeds (h : ∀ field ∈ fields,
    field.kind.Converts (key ++ "." ++ field.name) (Dictionary.get? field.name members)) :
    ∃ t, assignNamed key members fields s = .ok t := by
  induction fields generalizing s with
  | nil => exact ⟨s, rfl⟩
  | cons first rest ih =>
    rw [List.forall_mem_cons] at h
    rw [assignNamed_cons]
    cases hentry : Dictionary.get? first.name members with
    | none => exact ih h.2
    | some entry =>
      obtain ⟨value, hvalue⟩ := h.1 entry hentry
      simp only [hvalue]
      exact ih h.2

/-- The fields of a section take their values one by one. -/
theorem assignNamed_eq_ok_iff (hlawful : Lawful (fields.map SectionField.part)) :
    assignNamed key members fields s = .ok t ↔ ∀ field ∈ fields, field.Takes key members s t := by
  have htakes : ∀ {t}, assignNamed key members fields s = .ok t →
      ∀ field ∈ fields, field.Takes key members s t :=
    assignNamed_takes hlawful (fun _ h => h) hlawful.fieldNames
  constructor
  · exact htakes
  · intro h
    obtain ⟨made, hmade⟩ := assignNamed_succeeds fun field hfield => (h field hfield).converts
    -- the fields of what is made are those of `t`, so it is `t`
    have heq : made = t := by
      refine hlawful.ext made t fun part hpart => ?_
      obtain ⟨field, hfield, rfl⟩ := List.mem_map.mp hpart
      exact (htakes hmade field hfield).unique (h field hfield)
    rw [hmade, heq]

end Section

namespace Entry

/-- The entry is a table. -/
def IsTable (entry : Entry) : Prop := ∃ origin members, entry = .table origin members

/-- The entry under two names. -/
def lookup (entry : Entry) (section_ name : String) : Option Entry :=
  (Dictionary.get? section_ entry.members).bind fun inner => Dictionary.get? name inner.members

/-- Whatever stands under this name is a table. -/
def HasSection (entry : Entry) (section_ : String) : Prop :=
  ∀ inner ∈ Dictionary.get? section_ entry.members, inner.IsTable

end Entry

section Section

variable {fields : List (SectionField σ)} {title name : String} {default s : σ} {entry : Entry}

/-- A section takes the entries of its fields, or else its defaults. -/
theorem sectionUnder_eq_ok_iff (hlawful : Lawful (fields.map SectionField.part))
    (htable : entry.HasSection name) :
    sectionUnder title name fields default entry = .ok s ↔ ∀ field ∈ fields,
      field.kind.Takes (name ++ "." ++ field.name) default (entry.lookup name field.name) s := by
  unfold sectionUnder Entry.lookup
  cases hinner : Dictionary.get? name entry.members with
  | none =>
    constructor
    · intro h field _
      cases h
      rfl
    · intro h
      refine congrArg Except.ok (hlawful.ext default s fun part hpart => ?_)
      obtain ⟨field, hfield, rfl⟩ := List.mem_map.mp hpart
      exact Eq.symm (h field hfield)
  | some inner =>
    obtain ⟨origin, members, rfl⟩ := htable inner hinner
    exact assignNamed_eq_ok_iff hlawful

/-- A section can be made if and only if the entries of its fields have values. -/
theorem sectionUnder_succeeds (hlawful : Lawful (fields.map SectionField.part))
    (htable : entry.HasSection name) :
    (∃ s, sectionUnder title name fields default entry = .ok s) ↔ ∀ field ∈ fields,
      field.kind.Converts (name ++ "." ++ field.name) (entry.lookup name field.name) := by
  constructor
  · rintro ⟨s, h⟩ field hfield
    exact ((sectionUnder_eq_ok_iff hlawful htable).mp h field hfield).converts
  · intro h
    unfold sectionUnder
    unfold Entry.lookup at h
    cases hinner : Dictionary.get? name entry.members with
    | none => exact ⟨default, rfl⟩
    | some inner =>
      obtain ⟨origin, members, rfl⟩ := htable inner hinner
      rw [hinner] at h
      exact assignNamed_succeeds h

end Section

/-! ## Documented settings -/

/-- A setting of the tool: a field of a section. -/
structure Setting where
  section_ : String
  name : String
  kind : FieldKind ToolSettings

namespace Setting

/-- The key of a setting. -/
def key (setting : Setting) : String := setting.section_ ++ "." ++ setting.name

/-- The setting has the value of the entry, and its default if there is none. -/
def Takes (setting : Setting) (winner : Option Entry) (settings : ToolSettings) : Prop :=
  setting.kind.Takes setting.key .default winner settings

/-- The entry, if there is one, has a value for the setting. -/
def Converts (setting : Setting) (winner : Option Entry) : Prop :=
  setting.kind.Converts setting.key winner

/-- The fields of a section as settings. -/
def ofFields (section_ : String) (get : ToolSettings → σ) (put : σ → ToolSettings → ToolSettings)
    (fields : List (SectionField σ)) : List Setting :=
  fields.map fun field => ⟨section_, field.name, field.kind.within get put⟩

theorem forall_takes_ofFields {section_ : String} {get : ToolSettings → σ}
    {put : σ → ToolSettings → ToolSettings} {fields : List (SectionField σ)} {entry : Entry}
    {settings : ToolSettings} :
    (∀ setting ∈ ofFields section_ get put fields,
        setting.Takes (entry.lookup setting.section_ setting.name) settings) ↔
      ∀ field ∈ fields, field.kind.Takes (section_ ++ "." ++ field.name) (get .default)
        (entry.lookup section_ field.name) (get settings) := by
  simp only [ofFields, List.forall_mem_map, Takes, key, FieldKind.takes_within]

theorem forall_converts_ofFields {section_ : String} {get : ToolSettings → σ}
    {put : σ → ToolSettings → ToolSettings} {fields : List (SectionField σ)} {entry : Entry} :
    (∀ setting ∈ ofFields section_ get put fields,
        setting.Converts (entry.lookup setting.section_ setting.name)) ↔
      ∀ field ∈ fields, field.kind.Converts (section_ ++ "." ++ field.name)
        (entry.lookup section_ field.name) := by
  simp only [ofFields, List.forall_mem_map, Converts, key, FieldKind.converts_within]

end Setting

end Settings

open Settings

namespace ToolSettings

/-- The settings that are documented. -/
def documented : List Setting :=
  Setting.ofFields "toolchain" (·.toolchain) (fun v s => { s with toolchain := v })
    ToolchainSettings.fields ++
  Setting.ofFields "layout" (·.layout) (fun v s => { s with layout := v })
    LayoutSettings.fields ++
  Setting.ofFields "supervisor" (·.supervisor) (fun v s => { s with supervisor := v })
    SupervisorSettings.fields ++
  Setting.ofFields "logging" (·.logging) (fun v s => { s with logging := v })
    LoggingSettings.fields

example : documented.map (·.key) =
    ["toolchain.go_binary", "toolchain.git_binary", "toolchain.legacy_gopath",
      "layout.source_dir", "layout.template_root", "supervisor.tick_interval_ms",
      "supervisor.stop_timeout_ms", "logging.level", "logging.log_dir", "logging.json"] := by
  decide

variable {entry : Entry} {settings : ToolSettings}

/-- The settings that an entry makes up are those that take its values. -/
theorem ofEntry?_eq_ok_iff (htables : ∀ part ∈ sections, entry.HasSection part.name) :
    ofEntry? entry = .ok settings ↔ ∀ setting ∈ documented,
      setting.Takes (entry.lookup setting.section_ setting.name) settings := by
  simp only [sections, List.forall_mem_cons] at htables
  obtain ⟨htoolchain, hlayout, hsupervisor, hlogging, -⟩ := htables
  simp only [documented, List.forall_mem_append, Setting.forall_takes_ofFields, default]
  rw [← sectionUnder_eq_ok_iff ToolchainSettings.lawful htoolchain,
    ← sectionUnder_eq_ok_iff LayoutSettings.lawful hlayout,
    ← sectionUnder_eq_ok_iff SupervisorSettings.lawful hsupervisor,
    ← sectionUnder_eq_ok_iff LoggingSettings.lawful hlogging]
  simp only [Except.bind_ok_iff, ofEntry?]
  constructor
  · rintro ⟨toolchain, htoolchain, layout, hlayout, supervisor, hsupervisor, logging, hlogging, h⟩
    rw [← Except.ok.inj h]
    exact ⟨⟨⟨htoolchain, hlayout⟩, hsupervisor⟩, hlogging⟩
  · rintro ⟨⟨⟨htoolchain, hlayout⟩, hsupervisor⟩, hlogging⟩
    exact ⟨_, htoolchain, _, hlayout, _, hsupervisor, _, hlogging, rfl⟩

/-- An entry makes settings up if and only if its values convert. -/
theorem ofEntry?_succeeds (htables : ∀ part ∈ sections, entry.HasSection part.name) :
    (∃ settings, ofEntry? entry = .ok settings) ↔ ∀ setting ∈ documented,
      setting.Converts (entry.lookup setting.section_ setting.name) := by
  simp only [sections, List.forall_mem_cons] at htables
  obtain ⟨htoolchain, hlayout, hsupervisor, hlogging, -⟩ := htables
  simp only [documented, List.forall_mem_append, Setting.forall_converts_ofFields]
  rw [← sectionUnder_succeeds ToolchainSettings.lawful htoolchain,
    ← sectionUnder_succeeds LayoutSettings.lawful hlayout,
    ← sectionUnder_succeeds SupervisorSettings.lawful hsupervisor,
    ← sectionUnder_succeeds LoggingSettings.lawful hlogging]
  simp only [Except.bind_ok_iff, ofEntry?]
  constructor
  · rintro ⟨_, _, htoolchain, _, hlayout, _, hsupervisor, _, hlogging, -⟩
    exact ⟨⟨⟨⟨_, htoolchain⟩, _, hlayout⟩, _, hsupervisor⟩, _, hlogging⟩
  · rintro ⟨⟨⟨⟨_, htoolchain⟩, _, hlayout⟩, _, hsupervisor⟩, _, hlogging⟩
    exact ⟨_, _, htoolchain, _, hlayout, _, hsupervisor, _, hlogging, rfl⟩

end ToolSettings

end Pipewright
