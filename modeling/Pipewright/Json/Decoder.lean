import Pipewright.Json.Form

set_option autoImplicit false

/-! # Reading typed values from documents

A `Decoder` reads a value of a type from a form, and refuses with the first fault it meets in the
order of the text. It is told how the form is carried, for the carriers differ in what they
report: a text is read as it comes and nests to a limited depth, a value is already complete, and
a buffer is a complete part of a document that was set aside.

* `decodeJson` keeps any value, `skip` passes over one.
* `Record` describes a structure by its slots, read from an object by name or from an array by
  position.
* `decodeChoice` reads one of several names.
* `ofBytes?` and `ofJson?` run a decoder on a text and on a value. -/

namespace Pipewright.Json

/-- How a form is carried. -/
inductive Carrier where
  /-- A text, with the number of containers that may still be opened. -/
  | text (room : Nat)
  /-- A complete value. -/
  | value
  /-- A part of a document that was set aside whole. -/
  | buffer
  deriving DecidableEq, Repr

/-- Reads a value from a form. -/
abbrev Decoder (α : Type) := Carrier → Form → Except Fault α

namespace Carrier

/-- Opens a container. -/
def enter : Carrier → Except Fault Carrier
  | .text 0 => .error .recursionLimit
  | .text (room + 1) => .ok (.text room)
  | .value => .ok .value
  | .buffer => .ok .buffer

end Carrier

namespace ItemsEnd

/-- What a reader meets that wants another item. -/
def afterLast : ItemsEnd → Except Fault Unit
  | .closed => .ok ()
  | .atEnd => .error .endOfList
  | .junk => .error .expectedListComma
  | .commaClosed => .error .trailingComma
  | .commaAtEnd => .error .endOfValue

/-- What a reader of a text meets that wants no more items. -/
def close : ItemsEnd → Except Fault Unit
  | .closed => .ok ()
  | .atEnd => .error .endOfList
  | .junk => .error .trailingCharacters
  | .commaClosed => .error .trailingComma
  | .commaAtEnd => .error .trailingCharacters

/-- What a reader meets that skips the array. -/
def skip : ItemsEnd → Except Fault Unit
  | .closed => .ok ()
  | .atEnd => .error .endOfList
  | .junk => .error .expectedListComma
  | .commaClosed => .error .expectedValue
  | .commaAtEnd => .error .endOfValue

end ItemsEnd

namespace MembersEnd

/-- What a reader meets that wants another member. -/
def afterLast : MembersEnd → Except Fault Unit
  | .closed => .ok ()
  | .atEnd => .error .endOfObject
  | .notKey _ => .error .keyNotString
  | .junk => .error .expectedObjectComma
  | .commaClosed => .error .trailingComma
  | .commaAtEnd => .error .endOfValue

/-- What a reader meets that skips the object. -/
def skip : MembersEnd → Except Fault Unit
  | .closed => .ok ()
  | .atEnd => .error .endOfObject
  | .notKey _ => .error .keyNotString
  | .junk => .error .expectedObjectComma
  | .commaClosed => .error .keyNotString
  | .commaAtEnd => .error .endOfObject

end MembersEnd

/-! ## Any value -/

mutual

/-- Passes over a value: its tokens need only be well formed, and it may nest without limit. -/
def Form.skip : Form → Except Fault Unit
  | .broken fault => .error fault
  | .null | .bool _ => .ok ()
  | .number token => token.skipped
  | .string token => token.skipped
  | .array items close => do skipItems items; close.skip
  | .object members close => do skipMembers members; close.skip

/-- Passes over the items of an array. -/
def skipItems : List Form → Except Fault Unit
  | [] => .ok ()
  | item :: rest => do item.skip; skipItems rest

/-- Passes over the members of an object. -/
def skipMembers : List (Token String × Form) → Except Fault Unit
  | [] => .ok ()
  | (key, value) :: rest => do key.skipped; value.skip; skipMembers rest

end

mutual

/-- Keeps any value; the last member of a key wins. -/
def decodeJson : Form → Carrier → Except Fault Json
  | .broken fault, _ => .error fault
  | .null, _ => .ok .null
  | .bool b, _ => .ok (.bool b)
  | .number token, _ => token.kept.map .number
  | .string token, _ => token.kept.map .string
  | .array items close, carrier => do
    let carrier ← carrier.enter
    let items ← decodeItems items carrier
    close.afterLast
    return .array items
  | .object members close, carrier => do
    let carrier ← carrier.enter
    let pairs ← decodeMembers members carrier
    close.afterLast
    return .object (Dictionary.ofList pairs)

/-- Keeps the items of an array. -/
def decodeItems : List Form → Carrier → Except Fault (List Json)
  | [], _ => .ok []
  | item :: rest, carrier => do
    let json ← decodeJson item carrier
    return json :: (← decodeItems rest carrier)

/-- Keeps the members of an object, in the order of the text. -/
def decodeMembers : List (Token String × Form) → Carrier → Except Fault (List (String × Json))
  | [], _ => .ok []
  | (key, value) :: rest, carrier => do
    let key ← key.kept
    let json ← decodeJson value carrier
    return (key, json) :: (← decodeMembers rest carrier)

end

namespace Decoder

variable {α σ : Type}

/-- Keeps any value. -/
def json : Decoder Json := fun carrier form => decodeJson form carrier

/-- Refuses a form where another kind of value is expected. -/
def mismatch (expected : String) (form : Form) : Except Fault α :=
  form.found.bind fun found => .error (.invalidType found expected)

/-! ## Scalars -/

/-- A text; `expected` names it in reports. -/
def textAs (expected : String) : Decoder String := fun _ form =>
  match form with
  | .string token => token.kept
  | _ => mismatch expected form

def text : Decoder String := textAs "a string"

def path : Decoder String := textAs "path string"

def bool : Decoder Bool := fun _ form =>
  match form with
  | .bool b => .ok b
  | _ => mismatch "a boolean" form

/-- An unsigned integer of 64 bits. -/
def word : Decoder Nat := fun _ form =>
  match form with
  | .number token => token.kept.bind fun
    | .integer n =>
      if 0 ≤ n then .ok n.toNat else .error (.invalidValue (.integer n) "u64")
    | .float x => .error (.invalidType (.float x) "u64")
  | _ => mismatch "u64" form

/-- A value or `null`. -/
def optional (decode : Decoder α) : Decoder (Option α) := fun carrier form =>
  match form with
  | .null => .ok none
  | _ => (decode carrier form).map some

/-- Nothing: `null`, or in a buffer also the empty object. -/
def unit : Decoder Unit := fun carrier form =>
  match form, carrier with
  | .null, _ => .ok ()
  | .object [] _, .buffer => .ok ()
  | _, _ => mismatch "unit" form

/-! ## Lists and dictionaries -/

/-- Reads all items of an array. -/
def items (decode : Decoder α) (carrier : Carrier) : List Form → Except Fault (List α)
  | [] => .ok []
  | item :: rest => do
    let a ← decode carrier item
    return a :: (← items decode carrier rest)

/-- A list. -/
def list (decode : Decoder α) : Decoder (List α) := fun carrier form =>
  match form with
  | .array forms close => do
    let carrier ← carrier.enter
    let list ← items decode carrier forms
    close.afterLast
    return list
  | _ => mismatch "a sequence" form

/-- Reads all members of an object. -/
def members (decode : Decoder α) (carrier : Carrier) :
    List (Token String × Form) → Except Fault (List (String × α))
  | [] => .ok []
  | (key, value) :: rest => do
    let key ← key.kept
    let a ← decode carrier value
    return (key, a) :: (← members decode carrier rest)

/-- A dictionary; the last member of a key wins. -/
def dictionary (decode : Decoder α) : Decoder (Dictionary α) := fun carrier form =>
  match form with
  | .object forms close => do
    let carrier ← carrier.enter
    let pairs ← members decode carrier forms
    close.afterLast
    return Dictionary.ofList pairs
  | _ => mismatch "a map" form

end Decoder

/-! ## Records -/

/-- One slot of a record whose parts are collected in a draft of type `σ`. -/
structure Slot (σ : Type) where
  name : String
  /-- Whether the draft has this part. -/
  isFilled : σ → Bool
  /-- Reads the part and puts it into the draft. -/
  fill : Decoder (σ → σ)
  /-- Whether a list of parts may not end before this one. -/
  isRequired : Bool := false

/-- A record: its name in reports, its slots in order, and what becomes of the draft. -/
structure Record (σ α : Type) where
  title : String
  slots : List (Slot σ)
  empty : σ
  finish : σ → Except Fault α

/-- The part, which may not be missing. -/
def required {α : Type} (name : String) : Option α → Except Fault α
  | some a => .ok a
  | none => .error (.missingField name)

namespace Record

variable {σ α : Type}

/-- Reads members by name into the draft. Other members are passed over. -/
def fillByName (slots : List (Slot σ)) (carrier : Carrier) :
    List (Token String × Form) → σ → Except Fault σ
  | [], draft => .ok draft
  | (key, value) :: rest, draft => do
    let key ← key.kept
    match slots.find? (·.name == key) with
    | none =>
      value.skip
      fillByName slots carrier rest draft
    | some slot =>
      if slot.isFilled draft then .error (.duplicateField slot.name)
      else
        let put ← slot.fill carrier value
        fillByName slots carrier rest (put draft)

/-- How many parts a record has, in words. -/
def describe (record : Record σ α) : String :=
  let count := record.slots.length
  record.title ++ " with " ++ toString count ++ (if count = 1 then " element" else " elements")

/-- Reads items by position into the draft; gives the items that are left. -/
def fillByPosition (expected : String) (carrier : Carrier) (close : ItemsEnd) :
    List (Slot σ) → Nat → List Form → σ → Except Fault (List Form × σ)
  | [], _, items, draft => .ok (items, draft)
  | slot :: slots, index, [], draft => do
    close.afterLast
    if slot.isRequired then .error (.invalidLength index expected)
    else fillByPosition expected carrier close slots (index + 1) [] draft
  | slot :: slots, index, item :: rest, draft => do
    let put ← slot.fill carrier item
    fillByPosition expected carrier close slots (index + 1) rest (put draft)

/-- Closes an array of which `used` items were read and `left` were not. -/
def closeItems (carrier : Carrier) (close : ItemsEnd) (used : Nat) (left : List Form) :
    Except Fault Unit :=
  match left, carrier with
  | [], .text _ => close.close
  | [], _ => .ok ()
  | _ :: _, .text _ => .error .trailingCharacters
  | _ :: _, .value => .error (.invalidLength (used + left.length) "fewer elements in array")
  | _ :: _, .buffer =>
    .error (.invalidLength (used + left.length)
      (if used = 1 then "1 element in sequence" else toString used ++ " elements in sequence"))

/-- Reads a record from an object by name, or from an array by position. -/
def decode (record : Record σ α) : Decoder α := fun carrier form =>
  match form with
  | .object members close => do
    let carrier ← carrier.enter
    let draft ← fillByName record.slots carrier members record.empty
    close.afterLast
    record.finish draft
  | .array items close => do
    let inner ← carrier.enter
    let (left, draft) ←
      fillByPosition record.describe inner close record.slots 0 items record.empty
    let result ← record.finish draft
    closeItems carrier close (items.length - left.length) left
    return result
  | _ => Decoder.mismatch record.title form

end Record

/-! ## Choices -/

/-- Finds a name among the names of a choice. -/
def choose {α : Type} (choices : List (String × α)) (name : String) : Except Fault α :=
  match choices.find? (·.1 == name) with
  | some (_, a) => .ok a
  | none => .error (.unknownVariant name (choices.map (·.1)))

/-- One of several names, as a text or as the key of an object whose only member is nothing. -/
def Decoder.choice {α : Type} (choices : List (String × α)) : Decoder α := fun carrier form =>
  match form with
  | .string token => token.kept.bind (choose choices)
  | .object members close =>
    match carrier with
    | .text _ => do
      let inner ← carrier.enter
      match members with
      | [] =>
        match close with
        | .atEnd => .error .endOfValue
        | .notKey found => found.bind fun found => .error (.invalidType found "variant identifier")
        | _ => .error .expectedValue
      | (key, value) :: more =>
        let a ← key.kept.bind (choose choices)
        Decoder.unit inner value
        match more, close with
        | [], .closed => .ok a
        | [], .atEnd => .error .endOfObject
        | _, _ => .error .expectedValue
    | _ =>
      match members with
      | [(key, value)] => do
        let a ← key.kept.bind (choose choices)
        Decoder.unit carrier value
        .ok a
      | _ => .error (.invalidValue .map "map with a single key")
  | _ =>
    match carrier with
    | .text _ =>
      match form with
      | .broken .endOfValue => .error .endOfValue
      | _ => .error .expectedValue
    | _ => Decoder.mismatch "string or map" form

/-! ## Running a decoder -/

/-- The number of containers that may be open at once in a text. -/
def nestingLimit : Nat := 127

/-- Reads a value from a text, which must hold nothing else. -/
def ofBytes? {α : Type} (decode : Decoder α) (bytes : Bytes) : Except Fault α := do
  let document := Form.ofBytes bytes
  let a ← decode (.text nestingLimit) document.form
  if document.followed then .error .trailingCharacters
  return a

/-- Reads a value from a JSON value. -/
def ofJson? {α : Type} (decode : Decoder α) (json : Json) : Except Fault α :=
  decode .value (Form.ofJson json)

/-- Reads any JSON value from a text. -/
def parse? (bytes : Bytes) : Except Fault Json := ofBytes? Decoder.json bytes

end Pipewright.Json
