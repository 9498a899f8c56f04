import Pipewright.Decimal.Reading

set_option autoImplicit false

/-! # TOML values

`Value` is what a TOML document says. `Item` is what a document has said so far: its tables may
still grow, as far as the way in which they were begun allows it.

* `Item.put` adds a value under a dotted key, `Item.define` begins a table, `Item.append` begins
  the next table of a list of tables. Each refuses what would say a thing twice. -/

namespace Pipewright.Toml

/-- A value of a document. -/
inductive Value where
  | text (text : String)
  | integer (n : Int)
  | float (x : Binary64)
  | bool (b : Bool)
  /-- A date, a time of day, or both, in its usual form. -/
  | moment (text : String)
  | list (items : List Value)
  | table (members : List (String × Value))
  deriving Repr

/-- A part of a document that is being read. -/
inductive Item where
  | value (value : Value)
  /-- A table; it is implicit if only tables or keys below it were named, and dotted if it was named
      in a dotted key. -/
  | table (isImplicit isDotted : Bool) (members : List (String × Item))
  /-- A list of tables, each of which has its own heading. -/
  | tables (elements : List Item)
  deriving Repr

namespace Item

/-- The empty document. -/
def empty : Item := .table false false []

/-- The item under a key. -/
def get? (key : String) : List (String × Item) → Option Item
  | [] => none
  | (k, item) :: rest => if k = key then some item else get? key rest

/-- The members with an item in place of the one under its key. -/
def replace (key : String) (new : Item) : List (String × Item) → List (String × Item)
  | [] => []
  | (k, item) :: rest => if k = key then (k, new) :: rest else (k, item) :: replace key new rest

/-- The elements with the last one changed. -/
def changeLast (change : Item → Option Item) : List Item → Option (List Item)
  | [] => none
  | [last] => (change last).map ([·])
  | first :: rest => (changeLast change rest).map (first :: ·)

/-- Changes the table that a path leads to; missing tables on the way are made. A dotted path does
    not lead into tables that have a heading. -/
def change (isDotted : Bool) (action : Item → Option Item) : List String → Item → Option Item
  | [], item => action item
  | key :: rest, .table isImplicit dotted members =>
    let inner := change isDotted action rest
    match get? key members with
    | none => do
      let new ← inner (.table true isDotted [])
      some (.table isImplicit dotted (members ++ [(key, new)]))
    | some (.value _) => none
    | some (.tables elements) => do
      let elements ← changeLast inner elements
      some (.table isImplicit dotted (replace key (.tables elements) members))
    | some (.table implicit dot inside) =>
      if isDotted && !implicit then none
      else do
        let new ← inner (.table implicit dot inside)
        some (.table isImplicit dotted (replace key new members))
  | _ :: _, _ => none

/-- Adds a new member to a table that was begun in the same way as it is reached. -/
def add (key : String) (isDirect : Bool) (item : Item) : Item → Option Item
  | .table isImplicit isDotted members =>
    if isDotted = isDirect then none
    else
      match get? key members with
      | some _ => none
      | none => some (.table isImplicit isDotted (members ++ [(key, item)]))
  | _ => none

/-- Adds a value under a dotted key below the table with a heading. -/
def put (heading path : List String) (key : String) (v : Value) (document : Item) :
    Option Item :=
  change false (change true (add key path.isEmpty (.value v)) path) heading document

/-- Begins a table with a heading. -/
def define (path : List String) (key : String) (document : Item) : Option Item :=
  change false (fun
    | .table isImplicit isDotted members =>
      match get? key members with
      | none => some (.table isImplicit isDotted (members ++ [(key, .table false false [])]))
      | some (.table true false inside) =>
        some (.table isImplicit isDotted (replace key (.table false false inside) members))
      | some _ => none
    | _ => none) path document

/-- Begins the next table of a list of tables. -/
def append (path : List String) (key : String) (document : Item) : Option Item :=
  change false (fun
    | .table isImplicit isDotted members =>
      match get? key members with
      | none => some (.table isImplicit isDotted (members ++ [(key, .tables [empty])]))
      | some (.tables elements) =>
        some (.table isImplicit isDotted (replace key (.tables (elements ++ [empty])) members))
      | some _ => none
    | _ => none) path document

mutual

/-- What an item says. -/
def toValue : Item → Value
  | .value v => v
  | .table _ _ members => .table (membersToValues members)
  | .tables elements => .list (elementsToValues elements)

def membersToValues : List (String × Item) → List (String × Value)
  | [] => []
  | (key, item) :: rest => (key, toValue item) :: membersToValues rest

def elementsToValues : List Item → List Value
  | [] => []
  | item :: rest => toValue item :: elementsToValues rest

end

end Item

end Pipewright.Toml
