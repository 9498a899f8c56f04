import Pipewright.Failure
import Pipewright.Mapping.Document

set_option autoImplicit false

/-! # The mapping table

A `MappingTable` binds URNs to import paths, and remembers for each binding the document that made
it first. Merging only adds: a URN may be confirmed with the same import path, but an entry with
another import path is a conflict, and the entries before it stay accepted.

* `accept` takes one entry, `merge` the entries of a document in order.
* `get?` looks a URN up, `size` counts the bound URNs. -/

namespace Pipewright

/-- A bound URN: its import path, and the document that bound it first. -/
structure Binding where
  urn : String
  pkg : String
  document : Path
  deriving DecidableEq, Repr

/-- The bound URNs, each once, the latest first. -/
structure MappingTable where
  bindings : List Binding
  deriving DecidableEq, Repr

namespace MappingTable

/-- The table that binds nothing. -/
def empty : MappingTable := ⟨[]⟩

/-- The binding of a URN. -/
def find? (table : MappingTable) (urn : String) : Option Binding :=
  table.bindings.find? (·.urn == urn)

/-- The import path of a URN. -/
def get? (table : MappingTable) (urn : String) : Option String :=
  (table.find? urn).map (·.pkg)

/-- The number of bound URNs. -/
def size (table : MappingTable) : Nat := table.bindings.length

def isEmpty (table : MappingTable) : Bool := table.bindings.isEmpty

/-- Takes an entry of a document, or names the conflict with the binding that stands. -/
def accept (origin : Path) (table : MappingTable) (entry : MappingEntry) :
    Except Conflict MappingTable :=
  match table.find? entry.urn with
  | none => .ok ⟨⟨entry.urn, entry.pkg, origin⟩ :: table.bindings⟩
  | some binding =>
    if binding.pkg = entry.pkg then .ok table
    else .error
      { urn := entry.urn
        existingPackage := binding.pkg
        existingDocument := binding.document
        conflictingPackage := entry.pkg
        document := origin }

/-- Takes entries in order up to the first conflict. -/
def acceptAll (origin : Path) : MappingTable → List MappingEntry → Option Conflict × MappingTable
  | table, [] => (none, table)
  | table, entry :: rest =>
    match accept origin table entry with
    | .ok table => acceptAll origin table rest
    | .error conflict => (some conflict, table)

/-- Merges a document into the table; of a document with a conflict, the entries before it are
    kept. -/
def merge (origin : Path) (document : MappingDocument) (table : MappingTable) :
    Option Conflict × MappingTable :=
  acceptAll origin table document.entries

end MappingTable

end Pipewright
