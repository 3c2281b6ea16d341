import Mathlib.FieldTheory.Finite.Basic
import Mathlib.Tactic.LinearCombination
import SignedResponse.Crypto.Field25519
import SignedResponse.Proofs.Crypto.Primality

/-!
Arithmetic modulo 2^255 − 19 is that of a field.

Powers are computed digit by digit, inverses as powers, and roots by a power that is a root of a
quotient or of its negative. Each of these is what it is called.
-/

namespace SignedResponse.Field25519

instance : Fact (Nat.Prime prime) := ⟨prime_prime⟩

def residue (element : Field25519) : ZMod prime := element.val

theorem residue_injective : Function.Injective residue := by
  intro left right same
  have values := congrArg ZMod.val same
  rw [residue, residue, ZMod.val_natCast_of_lt left.isLt, ZMod.val_natCast_of_lt right.isLt]
    at values
  exact Fin.ext values

@[simp]
theorem residue_add (left right : Field25519) :
    residue (left + right) = residue left + residue right := by
  rw [residue, Fin.val_add, ZMod.natCast_mod, Nat.cast_add]
  rfl

@[simp]
theorem residue_mul (left right : Field25519) :
    residue (left * right) = residue left * residue right := by
  rw [residue, Fin.val_mul, ZMod.natCast_mod, Nat.cast_mul]
  rfl

@[simp]
theorem residue_sub (left right : Field25519) :
    residue (left - right) = residue left - residue right := by
  have whole : left - right + right = left := by
    have bound := right.isLt
    have values : prime - right.val + left.val + right.val = left.val + prime := by omega
    apply Fin.ext
    rw [Fin.val_add, Fin.val_sub, Nat.mod_add_mod, values, Nat.add_mod_right,
      Nat.mod_eq_of_lt left.isLt]
  rw [eq_sub_iff_add_eq, ← residue_add, whole]

theorem residue_of_nat (number : ℕ) : residue (ofNat number) = number :=
  ZMod.natCast_mod number prime

@[simp]
theorem residue_zero : residue zero = 0 := by
  rw [zero, residue_of_nat, Nat.cast_zero]

@[simp]
theorem residue_one : residue one = 1 := by
  rw [one, residue_of_nat, Nat.cast_one]

@[simp]
theorem residue_negate (element : Field25519) : residue (negate element) = -residue element := by
  rw [negate, residue_sub, residue_zero, zero_sub]

/-- The prime is odd, so of an element and its negative one is odd, unless they are zero. -/
theorem negate_eq_of_parity {element : Field25519}
    (parity : (negate element).val % 2 = element.val % 2) : negate element = element := by
  have bound := element.isLt
  have value : (negate element).val = (prime - element.val) % prime := by
    rw [negate, Fin.val_sub, show zero.val = 0 from rfl, Nat.add_zero]
  have none : element.val = 0 := by
    by_contra nonzero
    have odd : prime % 2 = 1 := by decide
    have small : prime - element.val < prime := by omega
    rw [value, Nat.mod_eq_of_lt small] at parity
    omega
  apply Fin.ext
  rw [value, none, Nat.sub_zero, Nat.mod_self]

/-- What holds of the start and is carried from a number to its double and to the next number holds
of the binary digits of a number, taken from the highest down. -/
theorem holds_foldr_bits {Result : Type} (holds : ℕ → Result → Prop)
    (step : Bool → Result → Result) {start : Result} (initially : holds 0 start)
    (even : ∀ number result, holds number result → holds (2 * number) (step false result))
    (odd : ∀ number result, holds number result → holds (2 * number + 1) (step true result))
    (count number : ℕ) : holds (number % 2 ^ count) ((bits count number).foldr step start) := by
  induction count generalizing number with
  | zero =>
      rw [Nat.pow_zero, Nat.mod_one]
      exact initially
  | succ count induction =>
      have rest := induction (number / 2)
      have split : number % 2 ^ (count + 1) = number % 2 + 2 * (number / 2 % 2 ^ count) := by
        rw [Nat.pow_succ, Nat.mul_comm, Nat.mod_mul]
      rw [bits, List.foldr_cons, split]
      rcases Nat.mod_two_eq_zero_or_one number with zero | one
      · rw [zero, Nat.zero_add]
        exact even _ _ rest
      · rw [one, Nat.add_comm]
        exact odd _ _ rest

theorem residue_power (base : Field25519) {exponent : ℕ} (fits : exponent < 2 ^ 255) :
    residue (power base exponent) = residue base ^ exponent := by
  have digits := holds_foldr_bits (fun number result => residue result = residue base ^ number)
    (fun bit result => if bit then result * result * base else result * result)
    (residue_one.trans (pow_zero (residue base)).symm)
    (fun number result held => by
      rw [two_mul, pow_add, ← held]
      exact residue_mul result result)
    (fun number result held => by
      rw [pow_succ, two_mul, pow_add, ← held, ← residue_mul]
      exact residue_mul (result * result) base) 255 exponent
  rw [Nat.mod_eq_of_lt fits] at digits
  exact digits

@[simp]
theorem residue_inverse (element : Field25519) :
    residue (inverse element) = (residue element)⁻¹ := by
  rw [inverse, residue_power element (by decide)]
  by_cases zero : residue element = 0
  · rw [zero, inv_zero, zero_pow (by decide)]
  · apply eq_inv_of_mul_eq_one_left
    rw [← pow_succ]
    exact ZMod.pow_card_sub_one_eq_one zero

theorem two_ne_zero : (2 : ZMod prime) ≠ 0 := by decide

theorem root_of_minus_one_sq : residue rootOfMinusOne ^ 2 = -1 := by
  have square : rootOfMinusOne * rootOfMinusOne = negate one := by decide
  rw [pow_two, ← residue_mul, square, residue_negate, residue_one]

theorem not_is_square_of_power {element : Field25519}
    (power : power element ((prime - 1) / 2) = negate one) : ¬IsSquare (residue element) := by
  rintro ⟨root, square⟩
  have whole : 2 * ((prime - 1) / 2) = prime - 1 := by decide
  have image := congrArg residue power
  rw [residue_power element (by decide), square, ← pow_two, ← pow_mul, whole, residue_negate,
    residue_one] at image
  by_cases zero : root = 0
  · rw [zero, zero_pow (by decide)] at image
    exact absurd image (by decide)
  · rw [ZMod.pow_card_sub_one_eq_one zero] at image
    exact absurd image (by decide)

theorem mul_sq_of_root_of_quotient {numerator denominator root : Field25519}
    (found : rootOfQuotient? numerator denominator = some root) :
    residue denominator * residue root ^ 2 = residue numerator := by
  -- How the candidate was come by makes no difference, since it is checked.
  have checked : ∀ candidate : Field25519,
      (if denominator * candidate * candidate = numerator then some candidate
        else if denominator * candidate * candidate = negate numerator then
          some (candidate * rootOfMinusOne)
        else none) = some root →
      residue denominator * residue root ^ 2 = residue numerator := by
    intro candidate found
    split_ifs at found with positive negative
    · rw [← Option.some.inj found, ← positive, residue_mul, residue_mul, pow_two, mul_assoc]
    · have image := congrArg residue negative
      rw [residue_mul, residue_mul, residue_negate] at image
      rw [← Option.some.inj found, residue_mul, mul_pow, root_of_minus_one_sq]
      linear_combination -image
  unfold rootOfQuotient? at found
  dsimp only at found
  exact checked _ found

end SignedResponse.Field25519
