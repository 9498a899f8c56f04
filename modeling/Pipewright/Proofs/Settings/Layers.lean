import Pipewright.Proofs.Settings.Sections
import Pipewright.Settings.Loading

set_option autoImplicit false

/-! # Settings from a file and from variables

A file of settings is documented if its tables are sections and their members documented settings,
and an environment is if each of its variables that begins with the name of the tool names a
documented setting, no two the same. Each of them says at most one thing of a setting
(`Setting.inFile?`, `Setting.inEnvironment?`). When the environment is laid over the file, what is
found of a setting is what the environment says, and else what the file says (`lookup_layers`): the
layers meet setting by setting, not section by section. -/

namespace Pipewright.Settings

/-! ## Laying entries over each other -/

namespace Entry

/-- The table with a member in place of the one of its name; what is no table gives place to
    one. -/
def withMember (target : Entry) (name : String) (value : Entry) : Entry :=
  .table target.tableOrigin (Dictionary.insert name value target.members)

theorem get?_withMember (target : Entry) (name other : String) (value : Entry) :
    Dictionary.get? other (target.withMember name value).members =
      if name = other then some value else Dictionary.get? other target.members :=
  Dictionary.get?_insert name other value target.members

theorem isTable_withMember (target : Entry) (name : String) (value : Entry) :
    (target.withMember name value).IsTable :=
  ⟨_, _, rfl⟩

theorem putAll_cons (target : Entry) (name : String) (entry : Entry)
    (rest : List (String × Entry)) :
    target.putAll ((name, entry) :: rest) =
      (target.withMember (Text.lower name)
        (laidOver (Dictionary.get? (Text.lower name) target.members) entry)).putAll rest := by
  rw [putAll]
  rfl

theorem isTable_putAll {target : Entry} (h : target.IsTable) (pairs : List (String × Entry)) :
    (target.putAll pairs).IsTable := by
  induction pairs generalizing target with
  | nil => exact h
  | cons pair rest ih =>
    rw [putAll_cons]
    exact ih (isTable_withMember ..)

/-- Members whose names are in lower case, no two the same, are laid over those of their names. -/
theorem get?_putAll {pairs : List (String × Entry)}
    (hlower : ∀ pair ∈ pairs, Text.lower pair.1 = pair.1) (hnames : (pairs.map (·.1)).Nodup)
    (target : Entry) (name : String) :
    Dictionary.get? name (target.putAll pairs).members =
      ((Dictionary.get? name pairs).map (laidOver (Dictionary.get? name target.members))).or
        (Dictionary.get? name target.members) := by
  induction pairs generalizing target with
  | nil => rfl
  | cons pair rest ih =>
    obtain ⟨first, entry⟩ := pair
    rw [List.forall_mem_cons] at hlower
    obtain ⟨hfirst, hrest⟩ := List.nodup_cons.mp hnames
    rw [putAll_cons, hlower.1, ih hlower.2 hrest, get?_withMember]
    by_cases heq : first = name
    · subst heq
      simp [Dictionary.get?, Dictionary.get?_eq_none_iff.mpr hfirst]
    · simp [Dictionary.get?, heq]

/-- A member of a member. -/
theorem lookup_withMember (target inner : Entry) (section_ other name : String) :
    (target.withMember section_ inner).lookup other name =
      if section_ = other then Dictionary.get? name inner.members
      else target.lookup other name := by
  rw [lookup, get?_withMember]
  split <;> rfl

theorem hasSection_withMember {target inner : Entry} {section_ other : String}
    (htarget : target.HasSection other) (hinner : inner.IsTable) :
    (target.withMember section_ inner).HasSection other := by
  intro found hfound
  rw [get?_withMember] at hfound
  split at hfound
  · cases hfound
    exact hinner
  · exact htarget found hfound

end Entry

/-! ## Documented settings -/

namespace Setting

/-- The name of a variable for the setting, in lower case. -/
def variableName (setting : Setting) : String :=
  Variable.mark ++ setting.section_ ++ "__" ++ setting.name

/-- The names that a setting goes by lead to it. -/
structure IsNamed (setting : Setting) : Prop where
  lowerSection : Text.lower setting.section_ = setting.section_
  lowerName : Text.lower setting.name = setting.name
  sectionSteps : KeyPath.ofText setting.section_ = [.name setting.section_]
  steps : KeyPath.ofText setting.key = [.name setting.section_, .name setting.name]
  key : ∀ name, Text.lower name = setting.variableName → Variable.key? name = some setting.key

/-- The key of a variable whose name is in lower case. -/
def keyOfLower? (name : String) : Option String :=
  if Variable.mark.toList.isPrefixOf name.toList then
    some (String.ofList (Variable.dotted (name.toList.drop Variable.mark.length)))
  else none

theorem key?_eq (name : String) : Variable.key? name = keyOfLower? (Text.lower name) := rfl

theorem isNamed : ∀ setting ∈ ToolSettings.documented, setting.IsNamed := by
  have hnames : ∀ setting ∈ ToolSettings.documented,
      Text.lower setting.section_ = setting.section_ ∧ Text.lower setting.name = setting.name ∧
      KeyPath.ofText setting.section_ = [.name setting.section_] ∧
      KeyPath.ofText setting.key = [.name setting.section_, .name setting.name] ∧
      keyOfLower? setting.variableName = some setting.key := by
    decide +kernel
  intro setting hsetting
  obtain ⟨hsection, hname, hsectionSteps, hsteps, hkey⟩ := hnames setting hsetting
  exact ⟨hsection, hname, hsectionSteps, hsteps, fun name h => by rw [key?_eq, h, hkey]⟩

/-- Documented settings with the same variables are the same. -/
theorem eq_of_variableName {one other : Setting} (hone : one.IsNamed) (hother : other.IsNamed)
    {name : String} (hnameOne : Text.lower name = one.variableName)
    (hnameOther : Text.lower name = other.variableName) :
    one.section_ = other.section_ ∧ one.name = other.name := by
  have hkey : one.key = other.key :=
    Option.some.inj ((hone.key name hnameOne).symm.trans (hother.key name hnameOther))
  have hsteps := hother.steps
  rw [← hkey, hone.steps] at hsteps
  simpa using hsteps

end Setting

/-! ## The environment -/

namespace Entry

/-- A value given to the key of a setting is found under its two names, and nothing else moves. -/
theorem lookup_assign {setting : Setting} (hnamed : setting.IsNamed) (origin : Option String)
    (value : Scalar) (target : Entry) (section_ name : String) :
    (assign (.scalar origin value) (KeyPath.ofText setting.key) target).lookup section_ name =
      if setting.section_ = section_ ∧ setting.name = name then some (.scalar origin value)
      else target.lookup section_ name := by
  have hassign : assign (.scalar origin value) (KeyPath.ofText setting.key) target =
      target.withMember setting.section_
        (((Dictionary.get? setting.section_ target.members).getD .nothing).withMember setting.name
          (.scalar origin value)) := by
    have hinner : ∀ inner : Entry, assign (.scalar origin value) [.name setting.name] inner =
        inner.withMember setting.name (.scalar origin value) := by
      intro inner
      rw [assign, putAll_cons, hnamed.lowerName, laidOver]
      rfl
    have houter : assign (.scalar origin value) [.name setting.section_, .name setting.name]
        target = target.withMember (Text.lower setting.section_)
          (assign (.scalar origin value) [.name setting.name]
            ((Dictionary.get? (Text.lower setting.section_) target.members).getD .nothing)) :=
      rfl
    rw [hnamed.steps, houter, hinner, hnamed.lowerSection]
  rw [hassign, lookup_withMember]
  by_cases hsection : setting.section_ = section_
  · subst hsection
    rw [if_pos rfl, get?_withMember]
    by_cases hname : setting.name = name
    · simp [hname]
    · -- a section that was not there has no members
      rw [if_neg hname, if_neg (fun h => hname h.2), lookup]
      cases Dictionary.get? setting.section_ target.members <;> rfl
  · rw [if_neg hsection, if_neg (fun h => hsection h.1)]

theorem hasSection_assign {setting : Setting} (hnamed : setting.IsNamed) (value : Entry)
    {target : Entry} {section_ : String} (h : target.HasSection section_) :
    (assign value (KeyPath.ofText setting.key) target).HasSection section_ := by
  rw [hnamed.steps]
  exact hasSection_withMember h (isTable_putAll (isTable_withMember ..) [])

end Entry

/-- Whether a variable counts as a setting: its name begins with the name of the tool and two
    underscores, in any case. -/
def isMarked (pair : String × String) : Bool :=
  "spirit_tool__".toList.isPrefixOf (Text.lower pair.1).toList

/-- The variables that count are those that have a key. -/
theorem isMarked_eq (pair : String × String) : isMarked pair = (Variable.key? pair.1).isSome := by
  unfold isMarked Variable.key? Variable.mark
  cases hmarked : "spirit_tool__".toList.isPrefixOf (Text.lower pair.1).toList with
  | true => simp only [hmarked, if_true, Option.isSome_some]
  | false => simp only [hmarked, Bool.false_eq_true, if_false, Option.isSome_none]

/-- Every variable that counts as a setting names a documented one, no two the same. -/
structure IsDocumentedEnvironment (environment : Dictionary String) : Prop where
  named : ∀ pair ∈ environment, isMarked pair →
    ∃ setting ∈ ToolSettings.documented, Text.lower pair.1 = setting.variableName
  once : ((environment.filter isMarked).map fun pair => Text.lower pair.1).Nodup

/-- What the environment says of a setting. -/
def Setting.inEnvironment? (environment : Dictionary String) (setting : Setting) : Option Entry :=
  (environment.find? fun pair => Text.lower pair.1 = setting.variableName).map fun pair =>
    .scalar (some Variable.origin) (Variable.scalar pair.2)

namespace IsDocumentedEnvironment

variable {pair : String × String} {rest : Dictionary String}

theorem tail (h : IsDocumentedEnvironment (pair :: rest)) : IsDocumentedEnvironment rest where
  named := fun other hother => h.named other (List.mem_cons_of_mem _ hother)
  once := h.once.sublist ((List.sublist_cons_self pair rest).filter isMarked |>.map _)

/-- A variable that counts is given to the key of its setting, any other is passed over. -/
theorem settings_cons (h : IsDocumentedEnvironment (pair :: rest)) :
    (isMarked pair = false ∧ Variable.settings (pair :: rest) = Variable.settings rest) ∨
    ∃ setting ∈ ToolSettings.documented, Text.lower pair.1 = setting.variableName ∧
      Variable.settings (pair :: rest) =
        (setting.key, .scalar (some Variable.origin) (Variable.scalar pair.2)) ::
          Variable.settings rest := by
  obtain ⟨name, text⟩ := pair
  by_cases hmarked : isMarked (name, text)
  · obtain ⟨setting, hsetting, hname⟩ := h.named _ List.mem_cons_self hmarked
    have hkey := (Setting.isNamed setting hsetting).key name hname
    exact .inr ⟨setting, hsetting, hname, by
      simp only [Variable.settings, List.filterMap_cons, hkey, Option.map_some]⟩
  · rw [isMarked_eq, Option.not_isSome_iff_eq_none] at hmarked
    exact .inl ⟨by rw [isMarked_eq, hmarked]; rfl, by
      simp only [Variable.settings, List.filterMap_cons, hmarked, Option.map_none]⟩

/-- The first of the variables has a name of its own. -/
theorem inEnvironment?_rest (h : IsDocumentedEnvironment (pair :: rest)) {setting : Setting}
    (hnamed : setting.IsNamed) (hname : Text.lower pair.1 = setting.variableName) :
    setting.inEnvironment? rest = none := by
  have hmarked : ∀ {other : String × String}, Text.lower other.1 = setting.variableName →
      isMarked other := fun hother => by rw [isMarked_eq, hnamed.key _ hother]; rfl
  have honce := h.once
  rw [List.filter_cons_of_pos (hmarked hname), List.map_cons, List.nodup_cons] at honce
  rw [Setting.inEnvironment?, Option.map_eq_none_iff, List.find?_eq_none]
  intro other hother hsame
  have hsame : Text.lower other.1 = setting.variableName := by simpa using hsame
  exact honce.1 (List.mem_map.mpr
    ⟨other, List.mem_filter.mpr ⟨hother, hmarked hsame⟩, hsame.trans hname.symm⟩)

theorem hasSection {environment : Dictionary String} (h : IsDocumentedEnvironment environment)
    {target : Entry} {section_ : String} (htarget : target.HasSection section_) :
    (target.assignAll (Variable.settings environment)).HasSection section_ := by
  induction environment generalizing target with
  | nil => exact htarget
  | cons pair rest ih =>
    rcases h.settings_cons with ⟨-, hsettings⟩ | ⟨setting, hsetting, -, hsettings⟩
    · rw [hsettings]
      exact ih h.tail htarget
    · rw [hsettings]
      exact ih h.tail (Entry.hasSection_assign (Setting.isNamed setting hsetting) _ htarget)

/-- Laid over an entry, the environment has the word on the settings that it says something of. -/
theorem lookup {environment : Dictionary String} (h : IsDocumentedEnvironment environment)
    (target : Entry) {setting : Setting} (hsetting : setting ∈ ToolSettings.documented) :
    (target.assignAll (Variable.settings environment)).lookup setting.section_ setting.name =
      (setting.inEnvironment? environment).or
        (target.lookup setting.section_ setting.name) := by
  have hnamed := Setting.isNamed setting hsetting
  induction environment generalizing target with
  | nil => rfl
  | cons pair rest ih =>
    rcases h.settings_cons with ⟨hmarked, hsettings⟩ | ⟨other, hother, hname, hsettings⟩
    · -- the variable does not count, so it is not that of the setting
      have hne : Text.lower pair.1 ≠ setting.variableName := by
        intro hname
        rw [isMarked_eq, hnamed.key _ hname] at hmarked
        cases hmarked
      rw [hsettings, ih h.tail, Setting.inEnvironment?, Setting.inEnvironment?,
        List.find?_cons_of_neg (by simpa using hne)]
    · have hnamedOther := Setting.isNamed other hother
      rw [hsettings]
      change (Entry.assignAll (Entry.assign _ (KeyPath.ofText other.key) target)
        (Variable.settings rest)).lookup _ _ = _
      rw [ih h.tail, Entry.lookup_assign hnamedOther]
      by_cases hsame : Text.lower pair.1 = setting.variableName
      · rw [if_pos (Setting.eq_of_variableName hnamedOther hnamed hname hsame),
          h.inEnvironment?_rest hnamed hsame, Setting.inEnvironment?,
          List.find?_cons_of_pos (by simpa using hsame)]
        rfl
      · have hne : ¬ (other.section_ = setting.section_ ∧ other.name = setting.name) := by
          rintro ⟨hsection, hname'⟩
          refine hsame (hname.trans ?_)
          rw [Setting.variableName, Setting.variableName, hsection, hname']
        rw [if_neg hne, Setting.inEnvironment?, Setting.inEnvironment?,
          List.find?_cons_of_neg (by simpa using hsame)]

end IsDocumentedEnvironment

/-! ## The file -/

/-- A table of a section, with documented settings, no two the same. -/
structure IsSectionTable (pair : String × Toml.Value) : Prop where
  named : ∃ setting ∈ ToolSettings.documented, setting.section_ = pair.1
  table : ∃ inner, pair.2 = .table inner ∧ (inner.map (·.1)).Nodup ∧
    ∀ name ∈ inner.map (·.1), ∃ setting ∈ ToolSettings.documented,
      setting.section_ = pair.1 ∧ setting.name = name

/-- The file has tables of sections, no two of the same section. -/
structure IsDocumentedFile (members : List (String × Toml.Value)) : Prop where
  once : (members.map (·.1)).Nodup
  tables : ∀ pair ∈ members, IsSectionTable pair

/-- What the file says of a setting. -/
def Setting.inFile? (origin : String) (members : List (String × Toml.Value)) (setting : Setting) :
    Option Entry :=
  match Dictionary.get? setting.section_ members with
  | some (.table inner) => (Dictionary.get? setting.name inner).map (entryOf origin)
  | _ => none

theorem namedEntriesOf_eq (origin : String) (members : List (String × Toml.Value)) :
    namedEntriesOf origin members = members.map fun pair => (pair.1, entryOf origin pair.2) := by
  induction members with
  | nil => rfl
  | cons pair rest ih =>
    rw [namedEntriesOf, ih]
    rfl

/-- A new section is read into a table of its own. -/
theorem IsSectionTable.assign {section_ : String} {inner : List (String × Toml.Value)}
    (h : IsSectionTable (section_, .table inner)) (origin : String) {target : Entry}
    (hfresh : Dictionary.get? section_ target.members = none) :
    Entry.assign (entryOf origin (.table inner)) (KeyPath.ofText section_) target =
      target.withMember section_ (Entry.empty.putAll (namedEntriesOf origin inner)) := by
  obtain ⟨setting, hsetting, rfl⟩ := h.named
  have hnamed := Setting.isNamed setting hsetting
  rw [hnamed.sectionSteps, entryOf, Entry.assign, Entry.putAll_cons, hnamed.lowerSection, hfresh,
    Entry.laidOver]
  rfl

/-- The entries of a section are its own. -/
theorem IsSectionTable.get? {section_ : String} {inner : List (String × Toml.Value)}
    (h : IsSectionTable (section_, .table inner)) (origin name : String) :
    Dictionary.get? name (Entry.empty.putAll (namedEntriesOf origin inner)).members =
      ((Dictionary.get? name inner).map (entryOf origin)).map (Entry.laidOver none) := by
  obtain ⟨_, heq, hnames, hnamed⟩ := h.table
  cases heq
  have hlower : ∀ pair ∈ inner, Text.lower pair.1 = pair.1 := by
    intro pair hpair
    obtain ⟨setting, hsetting, -, hname⟩ := hnamed pair.1 (List.mem_map_of_mem hpair)
    exact hname ▸ (Setting.isNamed setting hsetting).lowerName
  have hnone : Dictionary.get? name Entry.empty.members = none := rfl
  rw [namedEntriesOf_eq, Entry.get?_putAll, Dictionary.get?_map, hnone, Option.or_none]
  · exact List.forall_mem_map.mpr hlower
  · rwa [List.map_map]

namespace IsDocumentedFile

variable {members : List (String × Toml.Value)} {pair : String × Toml.Value}

theorem tail (h : IsDocumentedFile (pair :: members)) : IsDocumentedFile members where
  once := (List.nodup_cons.mp h.once).2
  tables := fun other hother => h.tables other (List.mem_cons_of_mem _ hother)

/-- The first section of the file becomes a member, and the others are still new. -/
theorem assignAll_cons {section_ : String} {value : Toml.Value}
    (h : IsDocumentedFile ((section_, value) :: members)) (origin : String) {target : Entry}
    (hfresh : ∀ other ∈ ((section_, value) :: members).map (·.1),
      Dictionary.get? other target.members = none) :
    ∃ inner, value = .table inner ∧ ∃ made,
      made = target.withMember section_ (Entry.empty.putAll (namedEntriesOf origin inner)) ∧
      target.assignAll (namedEntriesOf origin ((section_, value) :: members)) =
        made.assignAll (namedEntriesOf origin members) ∧
      ∀ other ∈ members.map (·.1), Dictionary.get? other made.members = none := by
  have htable := h.tables _ List.mem_cons_self
  obtain ⟨inner, rfl, -⟩ := htable.table
  obtain ⟨hfirst, -⟩ := List.nodup_cons.mp h.once
  rw [List.map_cons, List.forall_mem_cons] at hfresh
  refine ⟨inner, rfl, _, rfl, ?_, fun other hother => ?_⟩
  · rw [namedEntriesOf, ← htable.assign origin hfresh.1]
    rfl
  · have hne : section_ ≠ other := fun heq => hfirst (heq ▸ hother)
    rw [Entry.get?_withMember, if_neg hne]
    exact hfresh.2 other hother

theorem hasSection (h : IsDocumentedFile members) (origin : String) {target : Entry}
    (hfresh : ∀ section_ ∈ members.map (·.1), Dictionary.get? section_ target.members = none)
    {section_ : String} (htarget : target.HasSection section_) :
    (target.assignAll (namedEntriesOf origin members)).HasSection section_ := by
  induction members generalizing target with
  | nil => exact htarget
  | cons pair rest ih =>
    obtain ⟨inner, -, made, hmade, hassign, hrest⟩ := h.assignAll_cons origin hfresh
    rw [hassign]
    refine ih h.tail hrest (hmade ▸ Entry.hasSection_withMember htarget ?_)
    exact Entry.isTable_putAll ⟨_, _, rfl⟩ _

/-- Laid over an entry that has none of its sections, the file has the word on its settings. -/
theorem lookup (h : IsDocumentedFile members) (origin : String) {target : Entry}
    (hfresh : ∀ section_ ∈ members.map (·.1), Dictionary.get? section_ target.members = none)
    (setting : Setting) :
    (target.assignAll (namedEntriesOf origin members)).lookup setting.section_ setting.name =
      ((setting.inFile? origin members).map (Entry.laidOver none)).or
        (target.lookup setting.section_ setting.name) := by
  induction members generalizing target with
  | nil => rfl
  | cons pair rest ih =>
    obtain ⟨section_, value⟩ := pair
    obtain ⟨inner, rfl, made, rfl, hassign, hrest⟩ := h.assignAll_cons origin hfresh
    have htable := h.tables _ List.mem_cons_self
    rw [hassign, ih h.tail hrest, Entry.lookup_withMember, htable.get?]
    by_cases heq : section_ = setting.section_
    · -- no other table is of this section, and the entry has none yet
      subst heq
      have hlater : setting.inFile? origin rest = none := by
        rw [Setting.inFile?, Dictionary.get?_eq_none_iff.mpr (List.nodup_cons.mp h.once).1]
      have htarget : target.lookup setting.section_ setting.name = none := by
        rw [Entry.lookup, hfresh _ List.mem_cons_self]
        rfl
      rw [hlater, htarget, if_pos rfl, Setting.inFile?, Dictionary.get?, if_pos rfl,
        Option.or_none]
      rfl
    · rw [if_neg heq, Setting.inFile?, Setting.inFile?, Dictionary.get?, if_neg heq]

end IsDocumentedFile

/-! ## Both layers -/

section Values

variable {σ : Type} {kind : FieldKind σ} {key : String}

/-- No field takes a table. -/
theorem FieldKind.convert_table (origin : Option String) (members : List (String × Entry))
    (value : kind.Value) : kind.convert key (.table origin members) ≠ .ok value := by
  cases kind <;> exact fun h => nomatch h

/-- A table that is laid over nothing is a table still, and all else stays as it is. -/
theorem FieldKind.convert_laidOver {entry : Entry} {value : kind.Value} :
    kind.convert key (Entry.laidOver none entry) = .ok value ↔
      kind.convert key entry = .ok value := by
  cases entry with
  | nothing => rw [Entry.laidOver]
  | scalar origin scalar => rw [Entry.laidOver]
  | list origin items => rw [Entry.laidOver]
  | table origin members =>
    have hempty : Entry.empty.IsTable := ⟨_, _, rfl⟩
    obtain ⟨origin', members', hmembers⟩ := Entry.isTable_putAll hempty members
    rw [Entry.laidOver, Option.getD_none, hmembers]
    exact iff_of_false (convert_table _ _ _) (convert_table _ _ _)

end Values

namespace Setting

variable {setting : Setting} {first second : Option Entry} {settings : ToolSettings}

theorem takes_laidOver : setting.Takes (first.or (second.map (Entry.laidOver none))) settings ↔
    setting.Takes (first.or second) settings := by
  cases first with
  | some entry => exact Iff.rfl
  | none =>
    cases second with
    | none => exact Iff.rfl
    | some entry => exact FieldKind.convert_laidOver

theorem converts_laidOver : setting.Converts (first.or (second.map (Entry.laidOver none))) ↔
    setting.Converts (first.or second) := by
  cases first with
  | some entry => exact Iff.rfl
  | none =>
    cases second with
    | none => exact Iff.rfl
    | some entry =>
      simp only [Converts, FieldKind.Converts, Option.none_or, Option.map_some,
        Option.mem_some_iff, forall_eq', FieldKind.convert_laidOver]

/-- What the later of the layers says that says anything of a setting. -/
def winner? (origin : String) (members : List (String × Toml.Value))
    (environment : Dictionary String) (setting : Setting) : Option Entry :=
  (setting.inEnvironment? environment).or (setting.inFile? origin members)

end Setting

section Layers

variable {origin : String} {members : List (String × Toml.Value)}
  {environment : Dictionary String}

/-- The file and the environment over it, laid over nothing. -/
def layers (origin : String) (members : List (String × Toml.Value))
    (environment : Dictionary String) : Entry :=
  [namedEntriesOf origin members, Variable.settings environment].foldl Entry.assignAll Entry.empty

theorem hasSection_layers (hfile : IsDocumentedFile members)
    (henvironment : IsDocumentedEnvironment environment) (section_ : String) :
    (layers origin members environment).HasSection section_ :=
  henvironment.hasSection (hfile.hasSection origin (fun _ _ => rfl) nofun)

theorem lookup_layers (hfile : IsDocumentedFile members)
    (henvironment : IsDocumentedEnvironment environment) {setting : Setting}
    (hsetting : setting ∈ ToolSettings.documented) :
    (layers origin members environment).lookup setting.section_ setting.name =
      (setting.inEnvironment? environment).or
        ((setting.inFile? origin members).map (Entry.laidOver none)) := by
  have hempty : Entry.empty.lookup setting.section_ setting.name = none := rfl
  rw [layers, List.foldl_cons, List.foldl_cons, List.foldl_nil,
    henvironment.lookup _ hsetting, hfile.lookup origin fun _ _ => rfl, hempty, Option.or_none]

/-- The settings that the layers make up take the winning values. -/
theorem ofEntry?_layers_eq_ok_iff (hfile : IsDocumentedFile members)
    (henvironment : IsDocumentedEnvironment environment) {settings : ToolSettings} :
    ToolSettings.ofEntry? (layers origin members environment) = .ok settings ↔
      ∀ setting ∈ ToolSettings.documented,
        setting.Takes (setting.winner? origin members environment) settings := by
  rw [ToolSettings.ofEntry?_eq_ok_iff fun part _ => hasSection_layers hfile henvironment part.name]
  refine forall₂_congr fun setting hsetting => ?_
  rw [lookup_layers hfile henvironment hsetting, Setting.takes_laidOver, Setting.winner?]

/-- The layers make settings up if and only if the winning values convert. -/
theorem ofEntry?_layers_succeeds (hfile : IsDocumentedFile members)
    (henvironment : IsDocumentedEnvironment environment) :
    (∃ settings, ToolSettings.ofEntry? (layers origin members environment) = .ok settings) ↔
      ∀ setting ∈ ToolSettings.documented,
        setting.Converts (setting.winner? origin members environment) := by
  rw [ToolSettings.ofEntry?_succeeds fun part _ => hasSection_layers hfile henvironment part.name]
  refine forall₂_congr fun setting hsetting => ?_
  rw [lookup_layers hfile henvironment hsetting, Setting.converts_laidOver, Setting.winner?]

end Layers

end Pipewright.Settings
