set_option autoImplicit false

/-! # Text as bytes

Files and program output are sequences of bytes; text is read from them as UTF-8.

* `encode` writes a text as bytes.
* `decode?` reads bytes as text and refuses any sequence that is not well formed.
* `decodeLossy` reads any bytes: each maximal ill-formed stretch becomes one replacement
  character.

Both readers share `chars`, which gives `none` for an ill-formed stretch. -/

namespace Pipewright

/-- The content of a file or of an output stream. -/
abbrev Bytes := List UInt8

namespace Text.Utf8

/-- The bytes of a text. -/
def encode (text : String) : Bytes :=
  text.toList.flatMap String.utf8EncodeChar

/-- What a first byte promises: how many bytes follow, the bounds of the first of them, and the
    bits it contributes. -/
structure Lead where
  trailing : Nat
  low : UInt8
  high : UInt8
  bits : Nat

/-- The promise of a first byte, if a character can start with it. -/
def lead? (byte : UInt8) : Option Lead :=
  let n := byte.toNat
  if n < 0x80 then some ⟨0, 0x80, 0xBF, n⟩
  else if n < 0xC2 then none
  else if n < 0xE0 then some ⟨1, 0x80, 0xBF, n - 0xC0⟩
  else if n = 0xE0 then some ⟨2, 0xA0, 0xBF, 0⟩
  else if n = 0xED then some ⟨2, 0x80, 0x9F, 0xD⟩
  else if n < 0xF0 then some ⟨2, 0x80, 0xBF, n - 0xE0⟩
  else if n = 0xF0 then some ⟨3, 0x90, 0xBF, 0⟩
  else if n < 0xF4 then some ⟨3, 0x80, 0xBF, n - 0xF0⟩
  else if n = 0xF4 then some ⟨3, 0x80, 0x8F, 4⟩
  else none

/-- Reads the bytes that must follow; the first of them lies between `low` and `high`. -/
def takeTrailing : Nat → UInt8 → UInt8 → Nat → Bytes → Option Char × Bytes
  | 0, _, _, bits, rest => (some (Char.ofNat bits), rest)
  | _ + 1, _, _, _, [] => (none, [])
  | n + 1, low, high, bits, byte :: rest =>
    if low ≤ byte ∧ byte ≤ high then
      takeTrailing n 0x80 0xBF (bits * 64 + (byte.toNat - 0x80)) rest
    else (none, byte :: rest)

theorem length_takeTrailing_le (n : Nat) (low high : UInt8) (bits : Nat) (bytes : Bytes) :
    (takeTrailing n low high bits bytes).2.length ≤ bytes.length := by
  induction n generalizing low high bits bytes with
  | zero => simp [takeTrailing]
  | succ n ih =>
    cases bytes with
    | nil => simp [takeTrailing]
    | cons byte rest =>
      unfold takeTrailing
      split
      · exact Nat.le_succ_of_le (ih _ _ _ _)
      · simp

/-- The characters of a byte sequence, with `none` for each maximal ill-formed stretch. -/
def chars : Bytes → List (Option Char)
  | [] => []
  | byte :: rest =>
    match lead? byte with
    | none => none :: chars rest
    | some lead =>
      (takeTrailing lead.trailing lead.low lead.high lead.bits rest).1 ::
        chars (takeTrailing lead.trailing lead.low lead.high lead.bits rest).2
termination_by bytes => bytes.length
decreasing_by
  · simp
  · exact Nat.lt_succ_of_le (length_takeTrailing_le _ _ _ _ _)

/-- The text of well-formed bytes. -/
def decode? (bytes : Bytes) : Option String :=
  ((chars bytes).mapM id).map String.ofList

/-- The text of any bytes, with U+FFFD for each ill-formed stretch. -/
def decodeLossy (bytes : Bytes) : String :=
  String.ofList ((chars bytes).map (·.getD '\uFFFD'))

end Text.Utf8

end Pipewright
