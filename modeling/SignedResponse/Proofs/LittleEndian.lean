import Mathlib.Algebra.Group.Nat.Defs
import Mathlib.Tactic.Common
import SignedResponse.Block

/-!
Little-endian bytes and the numbers that they stand for determine each other, as long as the number
of bytes is fixed.
-/

namespace SignedResponse.LittleEndian

theorem value_bytes (size number : Nat) : value (bytes size number) = number % 256 ^ size := by
  induction size generalizing number with
  | zero => rw [bytes, value, Nat.pow_zero, Nat.mod_one]
  | succ size induction =>
      have lowest : (UInt8.ofNat (number % 256)).toNat = number % 256 :=
        UInt8.toNat_ofNat_of_lt' (Nat.mod_lt number (by decide))
      rw [bytes, value, induction, lowest, Nat.pow_succ, Nat.mul_comm (256 ^ size), Nat.mod_mul]

theorem value_lt (bytes : List UInt8) : value bytes < 256 ^ bytes.length := by
  induction bytes with
  | nil => decide
  | cons byte rest induction =>
      have bound := byte.toNat_lt
      rw [value, List.length_cons, Nat.pow_succ]
      omega

theorem eq_of_value_eq {left right : List UInt8} (sizes : left.length = right.length)
    (same : value left = value right) : left = right := by
  induction left generalizing right with
  | nil => exact (List.length_eq_zero_iff.mp sizes.symm).symm
  | cons byte rest induction =>
      cases right with
      | nil => cases sizes
      | cons other others =>
          -- The lowest byte is the remainder by 256, and the others are the quotient.
          have bound := byte.toNat_lt
          have otherBound := other.toNat_lt
          simp only [value] at same
          have lowest : byte.toNat = other.toNat := by omega
          have higher : value rest = value others := by omega
          rw [UInt8.toNat_inj.mp lowest, induction (Nat.succ.inj sizes) higher]

end SignedResponse.LittleEndian
