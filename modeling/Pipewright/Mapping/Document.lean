import Pipewright.Json.Decoder

set_option autoImplicit false

/-! # Mapping documents

A `MappingDocument` says which package implements which URN: a list of entries, in the order of
the document. -/

namespace Pipewright

open Json

/-- An import path for a URN. -/
structure MappingEntry where
  urn : String
  pkg : String
  deriving DecidableEq, Repr

namespace MappingEntry

/-- The parts of an entry that have been read. -/
structure Draft where
  urn : Option String
  pkg : Option String

def record : Record Draft MappingEntry :=
  { title := "struct UrnPackage"
    slots := [
      { name := "urn", isFilled := (·.urn.isSome), isRequired := true
        fill := fun carrier form =>
          (Decoder.text carrier form).map fun urn draft => { draft with urn := some urn } },
      { name := "pkg", isFilled := (·.pkg.isSome), isRequired := true
        fill := fun carrier form =>
          (Decoder.text carrier form).map fun pkg draft => { draft with pkg := some pkg } }]
    empty := ⟨none, none⟩
    finish := fun draft => do
      let urn ← required "urn" draft.urn
      let pkg ← required "pkg" draft.pkg
      return { urn, pkg } }

def decode : Decoder MappingEntry := record.decode

def toJson (entry : MappingEntry) : Json :=
  .object [("pkg", .string entry.pkg), ("urn", .string entry.urn)]

end MappingEntry

/-- The entries of a mapping document, in order. -/
structure MappingDocument where
  entries : List MappingEntry
  deriving DecidableEq, Repr

namespace MappingDocument

/-- A document may leave its list out. -/
def record : Record (Option (List MappingEntry)) MappingDocument :=
  { title := "struct MappingDocument"
    slots := [
      { name := "packages", isFilled := (·.isSome)
        fill := fun carrier form =>
          (Decoder.list MappingEntry.decode carrier form).map fun entries _ => some entries }]
    empty := none
    finish := fun draft => .ok ⟨draft.getD []⟩ }

def decode : Decoder MappingDocument := record.decode

def toJson (document : MappingDocument) : Json :=
  .object [("packages", .array (document.entries.map MappingEntry.toJson))]

end MappingDocument

end Pipewright
