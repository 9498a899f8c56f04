import Pipewright.Proofs.Json.Restoring
import Pipewright.Settings.Tool

set_option autoImplicit false

/-! # The parts of settings

Settings and their sections are structures of named parts. A `NamedPart` is one of them: how it is
taken out and put in, and how it is read and written in documents. The parts of a structure are
`Lawful` when putting one in leaves the others as they are and all of them together make up the
structure. Such a structure is read back from its document (`NamedPart.record_restores`).

The fields of the sections and the sections themselves are lawful, so the settings of the tool are
read back as they were written (`ToolSettings.toJson_restores`). -/

namespace Pipewright

namespace Settings

open Json

variable {σ : Type}

/-- A named part of a structure. -/
structure NamedPart (σ : Type) where
  name : String
  Value : Type
  get : σ → Value
  put : Value → σ → σ
  decode : Decoder Value
  encode : Value → Json

/-- Each part holds what was put in last, and the parts make up the structure. -/
structure Lawful (parts : List (NamedPart σ)) : Prop where
  names : (parts.map (·.name)).Nodup
  get_put : ∀ part ∈ parts, ∀ value s, part.get (part.put value s) = value
  get_put_of_ne : ∀ part ∈ parts, ∀ other ∈ parts, other.name ≠ part.name →
    ∀ value s, part.get (other.put value s) = part.get s
  ext : ∀ s t, (∀ part ∈ parts, part.get s = part.get t) → s = t

namespace NamedPart

variable {parts : List (NamedPart σ)}

def slot (part : NamedPart σ) : Slot (Overlay σ) :=
  overlaySlot part.name fun carrier form => (part.decode carrier form).map part.put

/-- The member that a part is written as. -/
def member (s : σ) (part : NamedPart σ) : String × Json := (part.name, part.encode (part.get s))

theorem slot_fill (part : NamedPart σ) : part.slot.fill = fun carrier form =>
    (part.decode carrier form).map fun value => Overlay.set part.name (part.put value) := by
  funext carrier form
  simp only [slot, overlaySlot]
  cases part.decode carrier form <;> rfl

theorem slot_names : (parts.map slot).map (·.name) = parts.map (·.name) := by
  rw [List.map_map]
  rfl

theorem member_names (s : σ) : (parts.map (member s)).map (·.1) = parts.map (·.name) := by
  rw [List.map_map]
  rfl

theorem slots_apart (h : Lawful parts) : Record.Apart (parts.map slot) where
  names := slot_names ▸ h.names
  fills := by
    intro one hone other hother hne
    obtain ⟨part, -, rfl⟩ := List.mem_map.mp hone
    obtain ⟨part', -, rfl⟩ := List.mem_map.mp hother
    refine Slot.keeps_of_fill part'.slot_fill fun value overlay => ?_
    have hname : part.name ≠ part'.name := Ne.symm hne
    change (part'.name :: overlay.found).contains part.name = overlay.found.contains part.name
    simp [hname]

/-- A part of the section that is being read is changed by its own slot only. -/
theorem slots_confine (h : Lawful parts) {part : NamedPart σ} (hpart : part ∈ parts) :
    Record.Confines (parts.map slot) part.name (fun overlay => part.get overlay.value) := by
  intro other hother hne
  obtain ⟨part', hpart', rfl⟩ := List.mem_map.mp hother
  exact Slot.keeps_of_fill part'.slot_fill fun value overlay =>
    h.get_put_of_ne part hpart part' hpart' hne value overlay.value

/-- A structure is read back when each of its parts is. -/
theorem record_restores (h : Lawful parts)
    (hread : ∀ part ∈ parts, ∀ value, part.decode.Restores (part.encode value) value)
    (title : String) (default s : σ) :
    (overlayRecord title (parts.map slot) default).decode.Restores
      (.object (Dictionary.ofList (parts.map (member s)))) s := by
  intro carrier hroom
  have hnodup : ((parts.map (member s)).map (·.1)).Nodup := member_names s ▸ h.names
  have hwritten : ∀ part ∈ parts, Dictionary.get? part.name
      (Dictionary.ofList (parts.map (member s))) = some (part.encode (part.get s)) :=
    fun part hpart => (Dictionary.get?_ofList _ hnodup).trans
      (Dictionary.get?_of_mem hnodup (List.mem_map_of_mem hpart))
  have hkeys := (Dictionary.isSorted_ofList (parts.map (member s))).nodup
  generalize Dictionary.ofList (parts.map (member s)) = written at hwritten hkeys hroom ⊢
  rw [depth] at hroom
  have hfill : ∀ part ∈ parts, part.slot.fill carrier.inside
      (Form.ofJson (part.encode (part.get s))) =
        .ok (Overlay.set part.name (part.put (part.get s))) := by
    intro part hpart
    have hdepth := depth_le_depthMembers (Dictionary.mem_of_get? (hwritten part hpart))
    simp only [slot_fill, hread part hpart _ _ (hroom.inside.mono hdepth)]
    rfl
  have hempty : ∀ one ∈ parts.map slot, one.name ∈ written.map (·.1) →
      one.isFilled (⟨[], default⟩ : Overlay σ) = false := by
    intro one hone _
    obtain ⟨part, -, rfl⟩ := List.mem_map.mp hone
    rfl
  obtain ⟨overlay, hoverlay⟩ := (Record.fillByName_succeeds carrier.inside (slots_apart h) hkeys
      hempty).mpr <| by
    intro one hone json hjson
    obtain ⟨part, hpart, rfl⟩ := List.mem_map.mp hone
    cases (hwritten part hpart).symm.trans hjson
    exact ⟨_, hfill part hpart⟩
  -- every part holds what was written, so the whole does
  have hvalue : overlay.value = s := by
    refine h.ext _ _ fun part hpart => ?_
    obtain ⟨put, before, hput, -, hafter⟩ := Record.part_fillByName (slots_apart h).names
      (List.mem_map_of_mem hpart) (slots_confine h hpart) hkeys (hwritten part hpart) hoverlay
    cases (hfill part hpart).symm.trans hput
    exact hafter.trans (h.get_put part hpart _ _)
  rw [Record.decode_object _ hroom]
  simp only [overlayRecord, hoverlay]
  exact congrArg Except.ok hvalue

end NamedPart

/-! ## Fields -/

namespace FieldKind

/-- What a field of this kind holds. -/
def Value : FieldKind σ → Type
  | .text .. => String
  | .flag .. => Bool
  | .word .. => Nat
  | .optionalText .. => Option String
  | .optionalPath .. => Option String
  | .optionalWord .. => Option Nat

/-- The value of a field. -/
def get : (kind : FieldKind σ) → σ → kind.Value
  | .text get _ => get
  | .flag get _ => get
  | .word get _ => get
  | .optionalText get _ => get
  | .optionalPath get _ => get
  | .optionalWord get _ => get

/-- Gives a field a value. -/
def put : (kind : FieldKind σ) → kind.Value → σ → σ
  | .text _ put => put
  | .flag _ put => put
  | .word _ put => put
  | .optionalText _ put => put
  | .optionalPath _ put => put
  | .optionalWord _ put => put

/-- Reads the value of a field. -/
def decode : (kind : FieldKind σ) → Decoder kind.Value
  | .text .. => Decoder.text
  | .flag .. => Decoder.bool
  | .word .. => Decoder.word
  | .optionalText .. => Decoder.optional Decoder.text
  | .optionalPath .. => Decoder.optional Decoder.path
  | .optionalWord .. => Decoder.optional Decoder.word

/-- Writes the value of a field. -/
def encode : (kind : FieldKind σ) → kind.Value → Json
  | .text .. => .string
  | .flag .. => .bool
  | .word .. => .ofNat
  | .optionalText .. => .ofOption .string
  | .optionalPath .. => .ofOption .string
  | .optionalWord .. => .ofOption .ofNat

theorem fill_eq (kind : FieldKind σ) :
    kind.fill = fun carrier form => (kind.decode carrier form).map kind.put := by
  cases kind <;> rfl

theorem toJson_eq (s : σ) (kind : FieldKind σ) : kind.toJson s = kind.encode (kind.get s) := by
  cases kind <;> rfl

theorem decode_restores (kind : FieldKind σ) (value : kind.Value) :
    kind.decode.Restores (kind.encode value) value := by
  cases kind with
  | text => exact Decoder.text_restores value
  | flag => exact Decoder.bool_restores value
  | word => exact Decoder.word_restores value
  | optionalText =>
    exact Decoder.optional_restores (fun _ _ => Json.noConfusion) fun text _ =>
      Decoder.text_restores text
  | optionalPath =>
    exact Decoder.optional_restores (fun _ _ => Json.noConfusion) fun path _ =>
      Decoder.path_restores path
  | optionalWord =>
    exact Decoder.optional_restores (fun _ _ => Json.noConfusion) fun word _ =>
      Decoder.word_restores word

end FieldKind

/-- A field as a part of its section. -/
def SectionField.part (field : SectionField σ) : NamedPart σ :=
  ⟨field.name, field.kind.Value, field.kind.get, field.kind.put, field.kind.decode,
    field.kind.encode⟩

theorem fieldsJson_eq (fields : List (SectionField σ)) (s : σ) : fieldsJson fields s =
    .object (Dictionary.ofList ((fields.map SectionField.part).map (NamedPart.member s))) := by
  simp only [fieldsJson, List.map_map, Function.comp_def, FieldKind.toJson_eq]
  rfl

theorem decodeSection_eq (title : String) (fields : List (SectionField σ)) (default : σ) :
    decodeSection title fields default =
      (overlayRecord title ((fields.map SectionField.part).map NamedPart.slot) default).decode := by
  simp only [decodeSection, List.map_map, Function.comp_def, FieldKind.fill_eq]
  rfl

/-- A section with lawful fields is read back. -/
theorem decodeSection_restores {fields : List (SectionField σ)}
    (h : Lawful (fields.map SectionField.part)) (title : String) (default s : σ) :
    (decodeSection title fields default).Restores (fieldsJson fields s) s := by
  rw [decodeSection_eq, fieldsJson_eq]
  refine NamedPart.record_restores h (fun part hpart => ?_) title default s
  obtain ⟨field, -, rfl⟩ := List.mem_map.mp hpart
  exact field.kind.decode_restores

end Settings

open Settings

/-! ## The settings of the tool -/

theorem ToolchainSettings.lawful : Lawful (fields.map SectionField.part) where
  names := by decide
  get_put := by simp [fields, SectionField.part, FieldKind.get, FieldKind.put]
  get_put_of_ne := by
    simp [fields, SectionField.part, FieldKind.get, FieldKind.put, FieldKind.Value]
  ext := by
    rintro ⟨_, _, _⟩ ⟨_, _, _⟩
    simp +contextual [fields, SectionField.part, FieldKind.get]

theorem LayoutSettings.lawful : Lawful (fields.map SectionField.part) where
  names := by decide
  get_put := by simp [fields, SectionField.part, FieldKind.get, FieldKind.put]
  get_put_of_ne := by
    simp [fields, SectionField.part, FieldKind.get, FieldKind.put, FieldKind.Value]
  ext := by
    rintro ⟨_, _⟩ ⟨_, _⟩
    simp +contextual [fields, SectionField.part, FieldKind.get]

theorem SupervisorSettings.lawful : Lawful (fields.map SectionField.part) where
  names := by decide
  get_put := by simp [fields, SectionField.part, FieldKind.get, FieldKind.put]
  get_put_of_ne := by
    simp [fields, SectionField.part, FieldKind.get, FieldKind.put, FieldKind.Value]
  ext := by
    rintro ⟨_, _⟩ ⟨_, _⟩
    simp +contextual [fields, SectionField.part, FieldKind.get]

theorem LoggingSettings.lawful : Lawful (fields.map SectionField.part) where
  names := by decide
  get_put := by simp [fields, SectionField.part, FieldKind.get, FieldKind.put]
  get_put_of_ne := by
    simp [fields, SectionField.part, FieldKind.get, FieldKind.put, FieldKind.Value]
  ext := by
    rintro ⟨_, _, _⟩ ⟨_, _, _⟩
    simp +contextual [fields, SectionField.part, FieldKind.get]

namespace ToolSettings

/-- The sections of the settings. -/
def sections : List (NamedPart ToolSettings) := [
  ⟨"toolchain", ToolchainSettings, (·.toolchain), fun v s => { s with toolchain := v },
    decodeSection toolchainTitle ToolchainSettings.fields .default,
    fieldsJson ToolchainSettings.fields⟩,
  ⟨"layout", LayoutSettings, (·.layout), fun v s => { s with layout := v },
    decodeSection layoutTitle LayoutSettings.fields .default, fieldsJson LayoutSettings.fields⟩,
  ⟨"supervisor", SupervisorSettings, (·.supervisor), fun v s => { s with supervisor := v },
    decodeSection supervisorTitle SupervisorSettings.fields .default,
    fieldsJson SupervisorSettings.fields⟩,
  ⟨"logging", LoggingSettings, (·.logging), fun v s => { s with logging := v },
    decodeSection loggingTitle LoggingSettings.fields .default,
    fieldsJson LoggingSettings.fields⟩]

theorem sections_lawful : Lawful sections where
  names := by decide
  get_put := by simp [sections]
  get_put_of_ne := by simp [sections]
  ext := by
    rintro ⟨_, _, _, _⟩ ⟨_, _, _, _⟩
    simp +contextual [sections]

theorem sections_restore : ∀ part ∈ sections, ∀ value,
    part.decode.Restores (part.encode value) value := by
  simp only [sections, List.forall_mem_cons]
  exact ⟨decodeSection_restores ToolchainSettings.lawful _ _,
    decodeSection_restores LayoutSettings.lawful _ _,
    decodeSection_restores SupervisorSettings.lawful _ _,
    decodeSection_restores LoggingSettings.lawful _ _, nofun⟩

theorem toJson_eq (settings : ToolSettings) : settings.toJson =
    .object (Dictionary.ofList (sections.map (NamedPart.member settings))) := by
  simp only [toJson, sections, List.map_cons, List.map_nil, NamedPart.member, Dictionary.ofList,
    Dictionary.union, List.foldl_cons, List.foldl_nil, Dictionary.insert, String.reduceLT,
    String.reduceEq, ↓reduceIte]

/-- The settings are read back as they were written. -/
theorem toJson_restores (settings : ToolSettings) :
    decode.Restores settings.toJson settings := by
  rw [toJson_eq]
  exact NamedPart.record_restores sections_lawful sections_restore title default settings

end ToolSettings

end Pipewright
