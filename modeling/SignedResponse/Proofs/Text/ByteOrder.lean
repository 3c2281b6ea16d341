import Mathlib.Tactic.Common
import SignedResponse.Proofs.Http.HeaderText
import SignedResponse.Text.Utf8

/-!
Texts in the order of their bytes.

UTF-8 keeps the order of characters: the bytes of a smaller character are smaller, and no character
starts with all bytes of another one. So texts are ordered by bytes as they are by characters.
-/

namespace SignedResponse.Utf8

theorem to_nat_val_lt (char : Char) : char.val.toNat < 0x110000 := by
  rcases char.valid with low | ⟨-, high⟩ <;> omega

theorem utf8_encode_char_append_lt {left right : Char} (less : left < right)
    (leftRest rightRest : List UInt8) :
    String.utf8EncodeChar left ++ leftRest < String.utf8EncodeChar right ++ rightRest := by
  have order : left.val.toNat < right.val.toNat := less
  have leftBound : left.val.toNat < 0x110000 := to_nat_val_lt left
  have rightBound : right.val.toNat < 0x110000 := to_nat_val_lt right
  unfold String.utf8EncodeChar
  simp only []
  split_ifs <;>
    simp only [List.cons_append, List.nil_append, List.cons_lt_cons_iff, UInt8.lt_iff_toNat_lt,
      ← UInt8.toNat_inj, UInt8.toNat_ofNat'] <;>
    simp (disch := omega) only [Nat.mod_eq_of_lt] <;>
    omega

theorem flat_map_utf8_encode_char_lt {left right : List Char} (less : left < right) :
    left.flatMap String.utf8EncodeChar < right.flatMap String.utf8EncodeChar := by
  induction left generalizing right with
  | nil =>
      cases right with
      | nil => exact absurd less (List.lt_irrefl [])
      | cons char rest =>
          rw [List.flatMap_nil, List.flatMap_cons]
          cases bytes : String.utf8EncodeChar char with
          | nil => exact absurd bytes String.utf8EncodeChar_ne_nil
          | cons first others => exact List.nil_lt_cons first _
  | cons char rest induction =>
      cases right with
      | nil => exact absurd less (List.not_lt_nil _)
      | cons other others =>
          rw [List.flatMap_cons, List.flatMap_cons]
          rcases List.cons_lt_cons_iff.mp less with smaller | ⟨rfl, further⟩
          · exact utf8_encode_char_append_lt smaller _ _
          · exact List.append_left_lt (induction further)

/-- Byte order and character order are one. -/
theorem encode_lt_iff {left right : String} : encode left < encode right ↔ left < right := by
  rw [String.lt_iff]
  constructor
  · intro less
    rw [encode_eq_flat_map, encode_eq_flat_map] at less
    by_contra notLess
    rcases List.le_iff_lt_or_eq.mp (List.not_lt.mp notLess) with greater | same
    · exact List.lt_asymm less (flat_map_utf8_encode_char_lt greater)
    · rw [same] at less
      exact List.lt_irrefl _ less
  · intro less
    rw [encode_eq_flat_map, encode_eq_flat_map]
    exact flat_map_utf8_encode_char_lt less

end SignedResponse.Utf8
