import Mathlib.Data.Nat.Digits.Defs
import SignedResponse.Proofs.Base64

/-!
The standard form of a byte string, told without a codec: bytes are the digits of one number in
base 256, symbols are its digits in base 64, and pads stand for zero bits at its end.

A byte string has exactly one standard form, and that is the form which is written.
-/

namespace SignedResponse.Base64

def alphabet : List Char :=
  "ABCDEFGHIJKLMNOPQRSTUVWXYZabcdefghijklmnopqrstuvwxyz0123456789+/".toList

/-- Digits in base 64 that hold the bytes and nothing else, both from the most significant on. Two
zero bits go with each pad, and there are no more pads than the last digit needs. -/
structure Holds (values : List Nat) (pads : Nat) (bytes : List UInt8) : Prop where
  digits : ∀ value ∈ values, value < 64
  few : pads ≤ 2
  bits : 6 * values.length = 8 * bytes.length + 2 * pads
  number : Nat.ofDigits 64 values.reverse =
    4 ^ pads * Nat.ofDigits 256 (bytes.reverse.map UInt8.toNat)

/-- A text is the standard form of bytes: a symbol for each digit, then the pads. -/
def IsStandard (chars : List Char) (bytes : List UInt8) : Prop :=
  ∃ values pads, Holds values pads bytes ∧
    chars = values.map (alphabet.getD · '=') ++ List.replicate pads '='

theorem alphabet_get {value : Nat} (bound : value < 64) :
    alphabet.getD value '=' = symbol value := by
  revert value bound
  decide

theorem Holds.unique {leftValues rightValues : List Nat} {leftPads rightPads : Nat}
    {bytes : List UInt8} (left : Holds leftValues leftPads bytes)
    (right : Holds rightValues rightPads bytes) :
    leftValues = rightValues ∧ leftPads = rightPads := by
  have pads : leftPads = rightPads := by
    have leftBits := left.bits
    have rightBits := right.bits
    have leftFew := left.few
    have rightFew := right.few
    omega
  subst pads
  have sizes : leftValues.length = rightValues.length := by
    have leftBits := left.bits
    have rightBits := right.bits
    omega
  have reversed : leftValues.reverse = rightValues.reverse := by
    apply Nat.ofDigits_inj_of_len_eq (show 1 < 64 by decide)
    · simp [sizes]
    · simpa using left.digits
    · simpa using right.digits
    · rw [left.number, right.number]
  exact ⟨List.reverse_inj.mp reversed, rfl⟩

theorem holds_one (a : UInt8) : Holds [a.toNat / 4, a.toNat % 4 * 16] 2 [a] where
  digits := by
    have bound := a.toNat_lt
    simp
    omega
  few := by decide
  bits := rfl
  number := by
    simp [Nat.ofDigits_cons]
    omega

theorem holds_two (a b : UInt8) :
    Holds [a.toNat / 4, a.toNat % 4 * 16 + b.toNat / 16, b.toNat % 16 * 4] 1 [a, b] where
  digits := by
    have boundA := a.toNat_lt
    have boundB := b.toNat_lt
    simp
    omega
  few := by decide
  bits := rfl
  number := by
    simp [Nat.ofDigits_cons]
    omega

/-- Three bytes in front are four digits in front: both add the same number, moved up by all bits of
the rest. -/
theorem Holds.group {values : List Nat} {pads : Nat} {bytes : List UInt8} (a b c : UInt8)
    (rest : Holds values pads bytes) :
    Holds (a.toNat / 4 :: (a.toNat % 4 * 16 + b.toNat / 16) ::
      (b.toNat % 16 * 4 + c.toNat / 64) :: c.toNat % 64 :: values) pads (a :: b :: c :: bytes) where
  digits := by
    have boundA := a.toNat_lt
    have boundB := b.toNat_lt
    have boundC := c.toNat_lt
    intro value member
    simp only [List.mem_cons] at member
    rcases member with rfl | rfl | rfl | rfl | later
    · omega
    · omega
    · omega
    · omega
    · exact rest.digits value later
  few := rest.few
  bits := by
    have bits := rest.bits
    simp only [List.length_cons]
    omega
  number := by
    have shift : 64 ^ values.length = 4 ^ pads * 256 ^ bytes.length := by
      rw [show 64 = 2 ^ 6 by rfl, show 4 = 2 ^ 2 by rfl, show 256 = 2 ^ 8 by rfl, ← pow_mul,
        ← pow_mul, ← pow_mul, ← pow_add, rest.bits, Nat.add_comm]
    have head : c.toNat % 64 + 64 * (b.toNat % 16 * 4 + c.toNat / 64 +
        64 * (a.toNat % 4 * 16 + b.toNat / 16 + 64 * (a.toNat / 4))) =
        c.toNat + 256 * (b.toNat + 256 * a.toNat) := by
      omega
    simp only [List.reverse_cons, List.append_assoc, List.map_append, List.map_cons, List.map_nil,
      List.cons_append, List.nil_append, Nat.ofDigits_append, Nat.ofDigits_cons, Nat.ofDigits_nil,
      Nat.mul_zero, Nat.add_zero, List.length_reverse, List.length_map]
    rw [rest.number, head, shift, Nat.mul_assoc, ← Nat.mul_add]

theorem is_standard_encode (bytes : List UInt8) : IsStandard (encode bytes) bytes := by
  have symbols : ∀ values : List Nat, (∀ value ∈ values, value < 64) →
      values.map (alphabet.getD · '=') = values.map symbol := by
    intro values digits
    apply List.map_congr_left
    intro value member
    exact alphabet_get (digits value member)
  suffices ∃ values pads, Holds values pads bytes ∧
      encode bytes = values.map symbol ++ List.replicate pads '=' by
    obtain ⟨values, pads, holds, written⟩ := this
    exact ⟨values, pads, holds, by rw [symbols values holds.digits, written]⟩
  fun_induction encode bytes with
  | case1 => exact ⟨[], 0, ⟨by simp, by decide, rfl, rfl⟩, rfl⟩
  | case2 a => exact ⟨_, _, holds_one a, rfl⟩
  | case3 a b => exact ⟨_, _, holds_two a b, rfl⟩
  | case4 a b c rest induction =>
      obtain ⟨values, pads, holds, written⟩ := induction
      refine ⟨_, _, holds.group a b c, ?_⟩
      rw [written]
      rfl

theorem is_standard_iff {chars : List Char} {bytes : List UInt8} :
    IsStandard chars bytes ↔ chars = encode bytes := by
  constructor
  · rintro ⟨values, pads, holds, rfl⟩
    obtain ⟨others, otherPads, otherHolds, written⟩ := is_standard_encode bytes
    obtain ⟨rfl, rfl⟩ := holds.unique otherHolds
    exact written.symm
  · rintro rfl
    exact is_standard_encode bytes

theorem decode_eq_some_iff_standard {chars : List Char} {bytes : List UInt8} :
    decode chars = some bytes ↔ IsStandard chars bytes := by
  rw [is_standard_iff]
  exact decode_eq_some_iff

theorem decode_text_eq_some_iff_standard {text : String} {bytes : List UInt8} :
    decodeText text = some bytes ↔ IsStandard text.toList bytes :=
  decode_eq_some_iff_standard

theorem IsStandard.unique {chars : List Char} {left right : List UInt8}
    (leftForm : IsStandard chars left) (rightForm : IsStandard chars right) : left = right := by
  have leftRead := decode_eq_some_iff_standard.mpr leftForm
  rw [decode_eq_some_iff_standard.mpr rightForm] at leftRead
  exact (Option.some.inj leftRead).symm

end SignedResponse.Base64
