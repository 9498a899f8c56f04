import Mathlib.Tactic.SplitIfs
import Mathlib.Data.String.Basic
import Pipewright.Text.Utf8

set_option autoImplicit false

/-! # The order of texts

Texts are compared character by character. `encode_lt_encode_iff` says that this is the order of
their bytes. -/

namespace Pipewright.Text.Utf8

/-- A smaller number has the smaller digit where its digits first differ from those of a larger
    one. -/
theorem digits_lt {m n : Nat} (h : m < n) :
    m / 262144 < n / 262144 ∨ m / 262144 = n / 262144 ∧
      (m / 4096 % 64 < n / 4096 % 64 ∨ m / 4096 % 64 = n / 4096 % 64 ∧
        (m / 64 % 64 < n / 64 % 64 ∨ m / 64 % 64 = n / 64 % 64 ∧ m % 64 < n % 64)) := by
  omega

/-- The encoding of a smaller character is smaller, whatever follows the two. -/
theorem encodeChar_lt {c d : Char} (h : c < d) (s t : Bytes) :
    String.utf8EncodeChar c ++ s < String.utf8EncodeChar d ++ t := by
  have hlt : c.val.toNat < d.val.toNat := h
  have hd : d.val.toNat < 0x110000 := by
    have hvalid := d.valid
    simp only [UInt32.isValidChar, Nat.isValidChar] at hvalid
    omega
  unfold String.utf8EncodeChar
  generalize c.val.toNat = m at hlt
  generalize d.val.toNat = n at hlt hd
  dsimp only
  by_cases hlong : m ≤ 0xffff
  · -- a longer encoding begins with a larger byte
    split_ifs
    all_goals
      simp only [List.cons_append, List.nil_append, List.cons_lt_cons_iff, UInt8.lt_iff_toNat_lt,
        ← UInt8.toNat_inj, UInt8.toNat_ofNat']
      omega
  · -- both encodings have four bytes, which show the digits
    have hdigits := digits_lt hlt
    have hlead : ∀ k, k < 0x110000 → (k / 262144 % 8 + 240) % 2 ^ 8 = k / 262144 + 240 := by omega
    have htrail : ∀ k, (k % 64 + 128) % 2 ^ 8 = k % 64 + 128 := by omega
    rw [if_neg (by omega), if_neg (by omega), if_neg hlong, if_neg (by omega), if_neg (by omega),
      if_neg (by omega)]
    simp only [List.cons_append, List.nil_append, List.cons_lt_cons_iff, UInt8.lt_iff_toNat_lt,
      ← UInt8.toNat_inj, UInt8.toNat_ofNat', htrail, hlead m (by omega), hlead n hd,
      Nat.add_lt_add_iff_right, Nat.add_right_cancel_iff]
    exact hdigits.imp_right (And.imp_right (Or.imp_right (And.imp_right (Or.imp_right
      (And.imp_right Or.inl)))))

/-- A text that comes before another has the bytes that come first. -/
theorem encode_lt_encode {a b : String} (h : a < b) : encode a < encode b := by
  suffices hlist : ∀ cs ds : List Char, cs < ds →
      cs.flatMap String.utf8EncodeChar < ds.flatMap String.utf8EncodeChar from hlist _ _ h
  intro cs
  induction cs with
  | nil =>
    intro ds h
    cases ds with
    | nil => exact absurd h (List.not_lt_nil _)
    | cons d ds =>
      rw [List.flatMap_cons, List.flatMap_nil]
      cases hd : String.utf8EncodeChar d with
      | nil => simp [String.utf8EncodeChar_ne_nil] at hd
      | cons byte rest => exact List.nil_lt_cons _ _
  | cons c cs ih =>
    intro ds h
    cases ds with
    | nil => exact absurd h (List.not_lt_nil _)
    | cons d ds =>
      rw [List.flatMap_cons, List.flatMap_cons]
      rcases List.cons_lt_cons_iff.1 h with hcd | ⟨rfl, hrest⟩
      · exact encodeChar_lt hcd _ _
      · exact List.append_left_lt (ih ds hrest)

/-- Texts are ordered as their bytes are. -/
theorem encode_lt_encode_iff {a b : String} : encode a < encode b ↔ a < b := by
  refine ⟨fun h => ?_, encode_lt_encode⟩
  rcases lt_trichotomy a b with hab | rfl | hba
  · exact hab
  · exact absurd h (List.lt_irrefl _)
  · exact absurd h (List.lt_asymm (encode_lt_encode hba))

end Pipewright.Text.Utf8
