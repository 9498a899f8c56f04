import Mathlib.Data.List.Nodup
import Pipewright.Proofs.Settings.Loading

set_option autoImplicit false

/-! # Texts from variables

A setting that is a text can be given by a variable, and a variable's text is first read as a truth
value or a number, if it reads as one. The setting then is not the text of the variable but its
value written out (`Scalar.toText`). `Variable.IsKept` says when the two are the same.

When a single variable sets a text that is not blank, the settings can be loaded: the setting is
that text written out, and every other has its default (`ToolSettings.load_written`). -/

namespace Pipewright

namespace Settings

/-! ## Texts written out -/

namespace Variable

/-- A text that is not another way to write a truth value or a number. -/
structure IsKept (text : String) : Prop where
  truth : ∀ b : Bool, Text.lower text = toString b → text = toString b
  integer : ∀ n, integer? text = some n → text = toString n
  float : ∀ x, integer? text = none → Binary64.ofText? text = some x → text = x.text .plain

/-- The value of a text is a truth value, an integer or a number, tried in this order, or else the
    text itself. -/
theorem scalar_cases (text : String) :
    (∃ b : Bool, Text.lower text = toString b ∧ scalar text = .bool b) ∨
    ((∀ b : Bool, Text.lower text ≠ toString b) ∧
      ((∃ n, integer? text = some n ∧ scalar text = .integer n) ∨
      integer? text = none ∧
        ((∃ x, Binary64.ofText? text = some x ∧ scalar text = .float x) ∨
        Binary64.ofText? text = none ∧ scalar text = .text text))) := by
  unfold scalar
  split
  · next htrue => exact .inl ⟨true, htrue, rfl⟩
  · next hfalse => exact .inl ⟨false, hfalse, rfl⟩
  · next htrue hfalse =>
    refine .inr ⟨fun b => ?_, ?_⟩
    · cases b
      · exact hfalse
      · exact htrue
    · cases hinteger : integer? text with
      | some n => exact .inl ⟨n, rfl, rfl⟩
      | none =>
        refine .inr ⟨rfl, ?_⟩
        cases hfloat : Binary64.ofText? text with
        | some x => exact .inl ⟨x, rfl, rfl⟩
        | none => exact .inr ⟨rfl, rfl⟩

theorem isKept_truth (b : Bool) : IsKept (toString b) := by
  have hinteger : integer? (toString b) = none := by cases b <;> decide +kernel
  have hfloat : Binary64.ofText? (toString b) = none := by cases b <;> decide +kernel
  refine ⟨fun other hother => ?_, fun n h => ?_, fun x _ h => ?_⟩
  · have hlower : Text.lower (toString b) = toString b := by cases b <;> decide +kernel
    exact hlower.symm.trans hother
  · rw [hinteger] at h
    cases h
  · rw [hfloat] at h
    cases h

/-- A text is kept if and only if its value is written out as it stands. -/
theorem isKept_iff (text : String) : IsKept text ↔ (scalar text).toText = text := by
  rcases scalar_cases text with ⟨b, hb, hscalar⟩ | ⟨htruth, hrest⟩
  · rw [hscalar]
    constructor
    · intro h
      exact (h.truth b hb).symm
    · intro h
      exact h ▸ isKept_truth b
  · rcases hrest with ⟨n, hn, hscalar⟩ | ⟨hinteger, ⟨x, hx, hscalar⟩ | ⟨hfloat, hscalar⟩⟩
    · rw [hscalar]
      constructor
      · intro h
        exact (h.integer n hn).symm
      · intro h
        refine ⟨fun b hb => absurd hb (htruth b), fun other hother => ?_, fun x hnone => ?_⟩
        · rw [hn] at hother
          exact Option.some.inj hother ▸ h.symm
        · rw [hn] at hnone
          cases hnone
    · rw [hscalar]
      constructor
      · intro h
        exact (h.float x hinteger hx).symm
      · intro h
        refine ⟨fun b hb => absurd hb (htruth b), fun n hn => ?_, fun other _ hother => ?_⟩
        · rw [hinteger] at hn
          cases hn
        · rw [hx] at hother
          exact Option.some.inj hother ▸ h.symm
    · rw [hscalar]
      refine iff_of_true ⟨fun b hb => absurd hb (htruth b), fun n hn => ?_, fun x _ hx => ?_⟩ rfl
      · rw [hinteger] at hn
        cases hn
      · rw [hfloat] at hx
        cases hx

end Variable

/-! ## Texts that are not blank -/

/-- One character that is not blank is enough. -/
theorem not_isBlankText_of_mem {text : String} {c : Char} (hmem : c ∈ text.toList)
    (hc : Text.isBlank c = false) : Text.isBlankText text = false := by
  rw [Text.isBlankText, List.all_eq_false]
  exact ⟨c, hmem, by simp [hc]⟩

theorem not_isBlankText_append {text : String} (h : Text.isBlankText text = false)
    (rest : String) :
    Text.isBlankText (text ++ rest) = false ∧ Text.isBlankText (rest ++ text) = false := by
  rw [Text.isBlankText, List.all_eq_false] at h
  obtain ⟨c, hmem, hc⟩ := h
  have hc : Text.isBlank c = false := by simpa using hc
  exact ⟨not_isBlankText_of_mem (by simp [hmem]) hc, not_isBlankText_of_mem (by simp [hmem]) hc⟩

theorem not_isBlank_of_isDigit {c : Char} (h : c.isDigit = true) : Text.isBlank c = false := by
  have hrange : 48 ≤ c.toNat ∧ c.toNat ≤ 57 := by
    simpa [Char.isDigit, UInt32.le_iff_toNat_le] using h
  simp [Text.isBlank]
  omega

theorem not_isBlankText_repr (n : Nat) : Text.isBlankText (Nat.repr n) = false := by
  have htext : (Nat.repr n).toList = Nat.toDigits 10 n := Nat.toList_repr
  obtain ⟨c, rest, hcons⟩ := List.exists_cons_of_ne_nil (Nat.toDigits_ne_nil (b := 10) (n := n))
  have hmem : c ∈ Nat.toDigits 10 n := hcons ▸ List.mem_cons_self
  exact not_isBlankText_of_mem (htext ▸ hmem)
    (not_isBlank_of_isDigit (Nat.isDigit_of_mem_toDigits (by decide) (by decide) hmem))

theorem not_isBlankText_digitsText (digits : Nat) (exponent : Int) :
    Text.isBlankText (FloatStyle.plain.digitsText digits exponent) = false := by
  have hpositional : ∀ point, FloatStyle.plain.isPositional point = true := fun _ => rfl
  unfold FloatStyle.digitsText
  simp only [hpositional, if_true]
  split
  · exact (not_isBlankText_append (not_isBlankText_append (not_isBlankText_repr digits) _).1 _).1
  · split
    · -- there is a point between whole and fraction
      exact (not_isBlankText_append (not_isBlankText_append (by decide) _).2 _).1
    · exact (not_isBlankText_append (not_isBlankText_repr digits) _).2

theorem not_isBlankText_plain (x : Binary64) : Text.isBlankText (x.text .plain) = false := by
  unfold Binary64.text
  dsimp only
  split
  · decide
  · split
    · exact (not_isBlankText_append (by decide) _).2
    · split
      · exact (not_isBlankText_append (by decide) _).2
      · exact (not_isBlankText_append (not_isBlankText_digitsText ..) _).2

/-- What is written out of a text that is not blank is not blank. -/
theorem not_isBlankText_toText {text : String} (h : Text.isBlankText text = false) :
    Text.isBlankText (Variable.scalar text).toText = false := by
  rcases Variable.scalar_cases text with
    ⟨b, -, hscalar⟩ | ⟨-, ⟨n, -, hscalar⟩ | ⟨-, ⟨x, -, hscalar⟩ | ⟨-, hscalar⟩⟩⟩
  · rw [hscalar]
    cases b <;> decide
  · rw [hscalar]
    cases n with
    | ofNat n => exact not_isBlankText_repr n
    | negSucc n => exact (not_isBlankText_append (not_isBlankText_repr (n + 1)) _).2
  · rw [hscalar]
    exact not_isBlankText_plain x
  · rw [hscalar]
    exact h

/-! ## Settings that are texts -/

namespace FieldKind

variable {σ : Type}

/-- Whether a field of this kind holds a text. -/
def isText : FieldKind σ → Bool
  | .text .. | .optionalText .. | .optionalPath .. => true
  | .flag .. | .word .. | .optionalWord .. => false

/-- The text that a field holds. -/
def text? : FieldKind σ → σ → Option String
  | .text get _, s => some (get s)
  | .optionalText get _, s => get s
  | .optionalPath get _, s => get s
  | .flag .., _ | .word .., _ | .optionalWord .., _ => none

variable {kind : FieldKind σ} {key : String} {default s : σ}

example : (ToolSettings.documented.filter (·.kind.isText)).map (·.key) =
    ["toolchain.go_binary", "toolchain.git_binary", "layout.source_dir", "layout.template_root",
      "logging.level", "logging.log_dir"] := by decide

/-- A field that holds a text takes any value, written out. -/
theorem converts_text (h : kind.isText = true) (origin : Option String) (value : Scalar) :
    kind.Converts key (some (.scalar origin value)) := by
  rintro entry ⟨⟩
  cases kind with
  | text | optionalText | optionalPath => exact ⟨_, rfl⟩
  | flag | word | optionalWord => cases h

theorem Takes.text_eq (h : kind.isText = true) {origin : Option String} {value : Scalar}
    (htakes : kind.Takes key default (some (.scalar origin value)) s) :
    kind.text? s = some value.toText := by
  cases kind with
  | text => exact congrArg some (Except.ok.inj htakes).symm
  | optionalText | optionalPath => exact (Except.ok.inj htakes).symm
  | flag | word | optionalWord => cases h

theorem text?_congr {t : σ} (h : kind.get s = kind.get t) : kind.text? s = kind.text? t := by
  cases kind with
  | text => exact congrArg some h
  | optionalText | optionalPath => exact h
  | flag | word | optionalWord => rfl

end FieldKind

section Single

variable {setting : Setting} {name : String}

/-- The variable of a setting, alone, is a documented environment. -/
theorem isDocumentedEnvironment_single (hsetting : setting ∈ ToolSettings.documented)
    (hname : Text.lower name = setting.variableName) (text : String) :
    IsDocumentedEnvironment [(name, text)] where
  named := by
    rintro _ hmem -
    rw [List.mem_singleton] at hmem
    exact ⟨setting, hsetting, hmem ▸ hname⟩
  once := by cases h : isMarked (name, text) <;> simp [List.filter, h]

theorem inEnvironment?_single (hname : Text.lower name = setting.variableName) (text : String) :
    setting.inEnvironment? [(name, text)] =
      some (.scalar (some Variable.origin) (Variable.scalar text)) := by
  simp [Setting.inEnvironment?, hname]

/-- The variable of a setting says nothing of any other. -/
theorem inEnvironment?_other (hsetting : setting ∈ ToolSettings.documented)
    (hname : Text.lower name = setting.variableName) (text : String) {other : Setting}
    (hother : other ∈ ToolSettings.documented) (hne : other.key ≠ setting.key) :
    other.inEnvironment? [(name, text)] = none := by
  have hnot : Text.lower name ≠ other.variableName := by
    intro hname'
    obtain ⟨hsection, hsame⟩ := Setting.eq_of_variableName (Setting.isNamed other hother)
      (Setting.isNamed setting hsetting) hname' hname
    exact hne (by rw [Setting.key, Setting.key, hsection, hsame])
  simp [Setting.inEnvironment?, hnot]

end Single

end Settings

open Settings

namespace ToolSettings

/-- Settings are not refused if no text among them is blank and all else has its default. -/
theorem validate_eq_ok {settings : ToolSettings}
    (htexts : ∀ setting ∈ documented, ∀ text ∈ setting.kind.text? settings,
      Text.isBlankText text = false)
    (hothers : ∀ setting ∈ documented, setting.kind.isText = false →
      setting.kind.get settings = setting.kind.get default) : settings.validate = .ok () := by
  simp only [documented, Setting.ofFields, ToolchainSettings.fields, LayoutSettings.fields,
    SupervisorSettings.fields, LoggingSettings.fields, List.map_cons, List.map_nil,
    List.cons_append, List.nil_append, List.forall_mem_cons, FieldKind.within, FieldKind.text?,
    Option.mem_some_iff, forall_eq', FieldKind.isText, FieldKind.get] at htexts hothers
  obtain ⟨hgo, hgit, -, hsource, htemplate, -⟩ := htexts
  obtain ⟨-, -, -, -, -, htick, -⟩ := hothers
  simp only [validate, requireText, hgo, hgit, hsource, htemplate, htick trivial]
  rfl

theorem default_texts : ∀ setting ∈ documented, ∀ text ∈ setting.kind.text? default,
    Text.isBlankText text = false := by
  decide +kernel

theorem eq_of_key {one other : Setting} (hone : one ∈ documented) (hother : other ∈ documented)
    (h : one.key = other.key) : one = other := by
  have hkeys : (documented.map Setting.key).Nodup := by decide
  exact List.inj_on_of_nodup_map hkeys hone hother h

variable {setting : Setting} {name text : String}

/-- What a variable alone makes up: its setting takes its value, and every other the default. -/
theorem isLayered_single_iff (hsetting : setting ∈ documented)
    (hname : Text.lower name = setting.variableName) {settings : ToolSettings} :
    IsLayered "" [] [(name, text)] settings ↔
      setting.Takes (some (.scalar (some Variable.origin) (Variable.scalar text))) settings ∧
      ∀ other ∈ documented, other.key ≠ setting.key → other.Takes none settings := by
  have hwinner : ∀ other : Setting, other.winner? "" [] [(name, text)] =
      other.inEnvironment? [(name, text)] := fun _ => Option.or_none
  simp only [IsLayered, hwinner]
  constructor
  · intro h
    refine ⟨inEnvironment?_single hname text ▸ h setting hsetting, fun other hother hne => ?_⟩
    exact inEnvironment?_other hsetting hname text hother hne ▸ h other hother
  · rintro ⟨hself, hothers⟩ other hother
    by_cases hkey : other.key = setting.key
    · rw [eq_of_key hother hsetting hkey, inEnvironment?_single hname]
      exact hself
    · rw [inEnvironment?_other hsetting hname text hother hkey]
      exact hothers other hother hkey

/-- A variable alone can be laid over nothing, if its setting is a text. -/
theorem exists_isLayered_single (hsetting : setting ∈ documented)
    (htext : setting.kind.isText = true) (hname : Text.lower name = setting.variableName)
    (text : String) : ∃ settings, IsLayered "" [] [(name, text)] settings := by
  have henvironment := isDocumentedEnvironment_single hsetting hname text
  have hfile : IsDocumentedFile [] := ⟨List.nodup_nil, List.forall_mem_nil _⟩
  have hconverts : ∀ other ∈ documented, other.Converts (other.winner? "" [] [(name, text)]) := by
    intro other hother
    rw [Setting.winner?, Setting.inFile?, Dictionary.get?, Option.or_none]
    by_cases hkey : other.key = setting.key
    · rw [eq_of_key hother hsetting hkey, inEnvironment?_single hname]
      exact FieldKind.converts_text htext _ _
    · rw [inEnvironment?_other hsetting hname text hother hkey]
      rintro _ ⟨⟩
  obtain ⟨settings, hmade⟩ := (ofEntry?_layers_succeeds hfile henvironment).mpr hconverts
  exact ⟨settings, (ofEntry?_layers_eq_ok_iff hfile henvironment).mp hmade⟩

/-- **Texts given by a variable.** Let a variable set a setting that is a text, and no other
    variable count as a setting. If what it says is not blank, the settings are loaded; the setting
    then is the value of that text written out, and every other has its default. The setting is the
    very text if and only if this is not another way to write a truth value or a number. -/
theorem load_written (world : World) (hsetting : setting ∈ documented)
    (htext : setting.kind.isText = true) (environment : Dictionary String)
    (henvironment : environment.filter isMarked = [(name, text)])
    (hname : Text.lower name = setting.variableName) (hblank : Text.isBlankText text = false) :
    ∃ settings, ((load none environment).runOn world).1 = .ok settings ∧
      setting.kind.text? settings = some (Variable.scalar text).toText ∧
      (∀ other ∈ documented, other.key ≠ setting.key →
        other.kind.get settings = other.kind.get default) ∧
      (setting.kind.text? settings = some text ↔ Variable.IsKept text) := by
  obtain ⟨settings, hlayered⟩ := exists_isLayered_single hsetting htext hname text
  obtain ⟨hself, hothers⟩ := (isLayered_single_iff hsetting hname).mp hlayered
  have hwritten : setting.kind.text? settings = some (Variable.scalar text).toText :=
    FieldKind.Takes.text_eq htext hself
  have hvalid : settings.validate = .ok () := by
    refine validate_eq_ok (fun other hother value hvalue => ?_) fun other hother hvalue => ?_
    · by_cases hkey : other.key = setting.key
      · rw [eq_of_key hother hsetting hkey, hwritten] at hvalue
        cases hvalue
        exact not_isBlankText_toText hblank
      · rw [FieldKind.text?_congr (hothers other hother hkey)] at hvalue
        exact default_texts other hother value hvalue
    · have hkey : other.key ≠ setting.key := fun hkey => by
        rw [eq_of_key hother hsetting hkey, htext] at hvalue
        cases hvalue
      exact hothers other hother hkey
  have hsame : environment.filter isMarked = List.filter isMarked [(name, text)] := by
    simp only [← henvironment, List.filter_filter, Bool.and_self]
  refine ⟨settings, ?_, hwritten, hothers, ?_⟩
  · have hdeclares : FileDeclares world.disk none "" [] := rfl
    rw [load_congr hsame, load_eq_ok_iff hdeclares ⟨List.nodup_nil, List.forall_mem_nil _⟩
      (isDocumentedEnvironment_single hsetting hname text)]
    exact ⟨hlayered, hvalid⟩
  · rw [hwritten, Option.some.injEq, Variable.isKept_iff]

/-- A text that begins with digits but is no number. -/
theorem load_written_digits :
    ∃ settings, ((load none [("HOME", "/"), ("Spirit_Tool__Layout__SOURCE_DIR", "007a")]).runOn
        (World.fresh [])).1 = .ok settings ∧ settings.layout.sourceDir = "007a" := by
  have henvironment : List.filter isMarked
      [("HOME", "/"), ("Spirit_Tool__Layout__SOURCE_DIR", "007a")] =
        [("Spirit_Tool__Layout__SOURCE_DIR", "007a")] := by decide +kernel
  have hkept : Variable.IsKept "007a" := (Variable.isKept_iff _).mpr (by decide +kernel)
  obtain ⟨settings, hload, -, -, hiff⟩ := load_written (World.fresh [])
    (List.get_mem documented ⟨3, by decide⟩) rfl _ henvironment (by decide +kernel)
    (by decide +kernel)
  exact ⟨settings, hload, Option.some.inj (hiff.mpr hkept)⟩

/-- A text that is another way to write a number is not kept. -/
theorem load_rewritten :
    ((load none [("SPIRIT_TOOL__LAYOUT__SOURCE_DIR", "007")]).runOn (World.fresh [])).1 =
        .ok { default with layout := { LayoutSettings.default with sourceDir := "7" } } ∧
      "7" ≠ "007" := by
  decide +kernel

end ToolSettings

end Pipewright
