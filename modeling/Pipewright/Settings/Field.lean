import Pipewright.Json.Decoder

set_option autoImplicit false

/-! # Fields of settings

A section of the settings is a structure of which every field has a default. A `SectionField`
describes one of them: its name, the kind of its value, and how it is read from and put into the
section. The description serves all sources of settings.

* `overlayRecord` reads a section from a JSON document: what the document names replaces the
  default.
* `fieldsJson` writes a section. -/

namespace Pipewright.Settings

open Json

/-- The kind of a field's value, with its lens into the section. -/
inductive FieldKind (σ : Type) where
  | text (get : σ → String) (put : String → σ → σ)
  | flag (get : σ → Bool) (put : Bool → σ → σ)
  | word (get : σ → Nat) (put : Nat → σ → σ)
  | optionalText (get : σ → Option String) (put : Option String → σ → σ)
  | optionalPath (get : σ → Option String) (put : Option String → σ → σ)
  | optionalWord (get : σ → Option Nat) (put : Option Nat → σ → σ)

/-- A field of a section. -/
structure SectionField (σ : Type) where
  name : String
  kind : FieldKind σ

/-- A section that is being read: the names found so far, and the section with their values. -/
structure Overlay (σ : Type) where
  found : List String
  value : σ

variable {σ τ : Type}

/-- Puts a value into a section that is being read. -/
def Overlay.set (name : String) (put : σ → σ) (overlay : Overlay σ) : Overlay σ :=
  ⟨name :: overlay.found, put overlay.value⟩

/-- A slot whose part replaces a default. -/
def overlaySlot (name : String) (fill : Decoder (σ → σ)) : Slot (Overlay σ) :=
  { name, isFilled := fun overlay => overlay.found.contains name
    fill := fun carrier form => (fill carrier form).map (Overlay.set name) }

/-- Reads a field's value from a document. -/
def FieldKind.fill : FieldKind σ → Decoder (σ → σ)
  | .text _ put => fun carrier form => (Decoder.text carrier form).map put
  | .flag _ put => fun carrier form => (Decoder.bool carrier form).map put
  | .word _ put => fun carrier form => (Decoder.word carrier form).map put
  | .optionalText _ put => fun carrier form =>
    (Decoder.optional Decoder.text carrier form).map put
  | .optionalPath _ put => fun carrier form =>
    (Decoder.optional Decoder.path carrier form).map put
  | .optionalWord _ put => fun carrier form =>
    (Decoder.optional Decoder.word carrier form).map put

/-- A record whose missing parts keep their defaults. -/
def overlayRecord (title : String) (slots : List (Slot (Overlay σ))) (default : σ) :
    Record (Overlay σ) σ :=
  { title, slots, empty := ⟨[], default⟩, finish := fun overlay => .ok overlay.value }

/-- Reads a section from a document. -/
def decodeSection (title : String) (fields : List (SectionField σ)) (default : σ) : Decoder σ :=
  (overlayRecord title (fields.map fun field => overlaySlot field.name field.kind.fill)
    default).decode

/-- A field's value in a document. -/
def FieldKind.toJson (section_ : σ) : FieldKind σ → Json
  | .text get _ => .string (get section_)
  | .flag get _ => .bool (get section_)
  | .word get _ => .ofNat (get section_)
  | .optionalText get _ => .ofOption .string (get section_)
  | .optionalPath get _ => .ofOption .string (get section_)
  | .optionalWord get _ => .ofOption .ofNat (get section_)

/-- A section in a document. -/
def fieldsJson (fields : List (SectionField σ)) (section_ : σ) : Json :=
  .object (Dictionary.ofList (fields.map fun field => (field.name, field.kind.toJson section_)))

end Pipewright.Settings
