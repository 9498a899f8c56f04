import Pipewright.Mapping.Table
import Pipewright.Package

set_option autoImplicit false

/-! # Resolution

Resolution finds the packages that implement a list of URNs.

* `MappingTable.ofDocuments` merges documents in order; loading and merging stop at the first
  failure.
* `MappingTable.resolve` looks the URNs up and gives each package once, the import paths in
  ascending order.
* `resolve` does both. -/

namespace Pipewright

/-- Puts a text into an ascending list, unless it is there. -/
def insertText (text : String) : List String → List String
  | [] => [text]
  | first :: rest =>
    if text < first then text :: first :: rest
    else if text = first then first :: rest
    else first :: insertText text rest

namespace MappingTable

/-- The import paths of URNs, each once, in ascending order; or the first URN without one. -/
def importPaths (table : MappingTable) : List String → List String → Except String (List String)
  | [], found => .ok found
  | urn :: rest, found =>
    match table.get? urn with
    | some pkg => importPaths table rest (insertText pkg found)
    | none => .error urn

/-- The packages that implement URNs. -/
def resolve (sourceRoot : Path) (table : MappingTable) (urns : List String) :
    Except Failure (List Package) :=
  match table.importPaths urns [] with
  | .ok uris => .ok (uris.map (Package.latest sourceRoot))
  | .error urn => .error (.unresolvedUrn urn)

/-- Loads and merges documents in order, up to the first failure. -/
def mergeDocuments {σ : Type} (load : Path → Action σ MappingDocument) :
    MappingTable → List Path → Action σ MappingTable
  | table, [] => return table
  | table, path :: rest => do
    let document ← load path
    match table.merge path document with
    | (some conflict, _) => throw (.conflictingMapping conflict)
    | (none, table) => mergeDocuments load table rest

/-- The table of documents. -/
def ofDocuments {σ : Type} (load : Path → Action σ MappingDocument) (paths : List Path) :
    Action σ MappingTable :=
  mergeDocuments load empty paths

end MappingTable

/-- The packages that implement URNs by the given documents, of which there must be one. -/
def resolve {σ : Type} (load : Path → Action σ MappingDocument) (sourceRoot : Path)
    (documents : List Path) (urns : List String) : Action σ (List Package) := do
  if documents = [] then throw .noMappingSource
  let table ← MappingTable.ofDocuments load documents
  ExceptT.mk (pure (table.resolve sourceRoot urns))

end Pipewright
