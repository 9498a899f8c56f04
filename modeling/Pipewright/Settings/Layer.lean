import Pipewright.Decimal.Shortest
import Pipewright.Dictionary
import Pipewright.Text.LowerCase

set_option autoImplicit false

/-! # Layers of settings

An `Entry` is what a layer of settings says: a value, a list or a table of entries, each with its
origin. Layers are laid over each other key by key; names are compared without regard to case.

* `Entry.putAll` lays the members of a table over an entry.
* `Entry.assign` gives a value to what a path of steps leads to; what is no table or list on the
  way gives place to one. -/

namespace Pipewright.Settings

/-- A single value of a layer. -/
inductive Scalar where
  | bool (b : Bool)
  | integer (n : Int)
  | float (x : Binary64)
  | text (s : String)
  deriving DecidableEq, Repr

/-- What a layer says. -/
inductive Entry where
  | nothing
  | scalar (origin : Option String) (value : Scalar)
  | list (origin : Option String) (items : List Entry)
  | table (origin : Option String) (members : List (String × Entry))
  deriving Repr

/-- A step into a table or a list; a negative position counts from the end. -/
inductive Step where
  | name (name : String)
  | position (index : Int)
  deriving DecidableEq, Repr

namespace Entry

/-- The entry that layers are laid over. -/
def empty : Entry := .table none []

/-- Where a table came from. -/
def tableOrigin : Entry → Option String
  | .table origin _ => origin
  | _ => none

/-- The members of a table; anything else has none. -/
def members : Entry → List (String × Entry)
  | .table _ members => members
  | _ => []

/-- The items of a list; anything else has none. -/
def items : Entry → List Entry
  | .list _ items => items
  | _ => []

/-- Where a list came from. -/
def listOrigin : Entry → Option String
  | .list origin _ => origin
  | _ => none

mutual

/-- What stands in a place after an entry is laid over it: a table is laid over it by members, all
    else takes its place. -/
def laidOver (existing : Option Entry) : Entry → Entry
  | .table _ members => putAll (existing.getD empty) members
  | .nothing => .nothing
  | .scalar origin value => .scalar origin value
  | .list origin items => .list origin items

/-- Lays members over an entry. -/
def putAll (target : Entry) : List (String × Entry) → Entry
  | [] => target
  | (name, entry) :: rest =>
    let key := Text.lower name
    let merged := laidOver (Dictionary.get? key target.members) entry
    putAll (.table target.tableOrigin (Dictionary.insert key merged target.members)) rest

end

/-- A list with a position in it; a list that is too short is filled up. -/
def reach (index : Int) (items : List Entry) : Nat × List Entry :=
  let position := if 0 ≤ index then index.toNat else (items.length + index).toNat
  (position, items ++ List.replicate (position + 1 - items.length) .nothing)

/-- Gives a value to what the steps lead to. -/
def assign (value : Entry) : List Step → Entry → Entry
  | [], _ => value
  | [.name name], target => target.putAll [(name, value)]
  | .name name :: rest, target =>
    let key := Text.lower name
    let inner := (Dictionary.get? key target.members).getD .nothing
    .table target.tableOrigin (Dictionary.insert key (assign value rest inner) target.members)
  | .position index :: rest, target =>
    let (position, items) := reach index target.items
    let inner := (items[position]?).getD .nothing
    .list target.listOrigin (items.set position (assign value rest inner))

end Entry

end Pipewright.Settings
