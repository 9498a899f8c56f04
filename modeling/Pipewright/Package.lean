import Pipewright.Failure
import Pipewright.Json.Decoder

set_option autoImplicit false

/-! # Packages

A `Package` is a source package by its import path, with an optional revision and the directory
under which packages live.

* `Package.sourceDir` is where the package lives: the segments of its import path under the root.
* `applyPins` gives the packages that a pin names their revision.
* `fetchAll` drives a fetcher over the pinned packages in order, up to the first failure. -/

namespace Pipewright

open Json

/-- A source package. -/
structure Package where
  uri : String
  /-- The revision to check out; the empty one means the latest. -/
  revision : String
  /-- The directory under which packages live. -/
  sourceRoot : Path
  deriving DecidableEq, Repr

namespace Package

/-- The latest revision of a package. -/
def latest (sourceRoot : Path) (uri : String) : Package := ⟨uri, "", sourceRoot⟩

/-- Whether the package has a revision to check out. -/
def isPinned (package : Package) : Bool := package.revision ≠ ""

/-- Where the package lives. -/
def sourceDir (package : Package) : Path :=
  (Path.segments package.uri).foldl Path.join package.sourceRoot

/-- The parts of a package that have been read. -/
structure Draft where
  uri : Option String
  revision : Option String

/-- A package in a document has no root. -/
def record : Record Draft Package :=
  { title := "struct Package"
    slots := [
      { name := "uri", isFilled := (·.uri.isSome), isRequired := true
        fill := fun carrier form =>
          (Decoder.text carrier form).map fun uri draft => { draft with uri := some uri } },
      { name := "revision", isFilled := (·.revision.isSome)
        fill := fun carrier form =>
          (Decoder.text carrier form).map fun revision draft =>
            { draft with revision := some revision } }]
    empty := ⟨none, none⟩
    finish := fun draft => do
      let uri ← required "uri" draft.uri
      return { uri, revision := draft.revision.getD "", sourceRoot := "" } }

def decode : Decoder Package := record.decode

def toJson (package : Package) : Json :=
  .object [("revision", .string package.revision), ("uri", .string package.uri)]

end Package

/-- Revisions by import path. -/
abbrev Pins := Dictionary String

/-- The package with the revision that its pin names, if it has one. -/
def Package.pinned (pins : Pins) (package : Package) : Package :=
  match Dictionary.get? package.uri pins with
  | some revision => { package with revision }
  | none => package

/-- The packages with their pins. -/
def applyPins (pins : Pins) (packages : List Package) : List Package :=
  packages.map (·.pinned pins)

/-- Brings a package into the workspace; with `update`, also one that is there already. -/
abbrev Fetcher (σ : Type) := Package → (update : Bool) → Action σ Unit

/-- Fetches packages in order up to the first failure. -/
def fetchEach {σ : Type} (fetcher : Fetcher σ) (update : Bool) : List Package → Action σ Unit
  | [] => return
  | package :: rest => do
    fetcher package update
    fetchEach fetcher update rest

/-- Fetches the pinned packages, and gives them back. -/
def fetchAll {σ : Type} (fetcher : Fetcher σ) (update : Bool) (pins : Pins)
    (packages : List Package) : Action σ (List Package) := do
  let pinned := applyPins pins packages
  fetchEach fetcher update pinned
  return pinned

end Pipewright
