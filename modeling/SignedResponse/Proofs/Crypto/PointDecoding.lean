import Mathlib.NumberTheory.LegendreSymbol.Basic
import SignedResponse.Crypto.Ed25519
import SignedResponse.Proofs.Crypto.Edwards25519

/-!
Which 32 bytes stand for a point of the curve.

A quotient that is a square has its root found: the candidate is a power, and Euler's criterion
leaves two values for what it is checked against, both of which are provided for. So bytes are
decoded exactly if the curve has a point with the `y` that they give.
-/

namespace SignedResponse

namespace Field25519

variable {numerator denominator : Field25519} {root : ZMod prime}

/-- What is tried as a root of a quotient. -/
def candidate (numerator denominator : Field25519) : Field25519 :=
  let cube := denominator * denominator * denominator
  numerator * cube * power (numerator * cube * cube * denominator) ((prime - 5) / 8)

def check (numerator denominator : Field25519) : Field25519 :=
  denominator * candidate numerator denominator * candidate numerator denominator

theorem root_of_quotient_eq (numerator denominator : Field25519) :
    rootOfQuotient? numerator denominator =
      if check numerator denominator = numerator then some (candidate numerator denominator)
      else if check numerator denominator = negate numerator then
        some (candidate numerator denominator * rootOfMinusOne)
      else none := rfl

theorem residue_candidate (numerator denominator : Field25519) :
    residue (candidate numerator denominator) =
      residue numerator * residue denominator ^ 3 *
        (residue numerator * residue denominator ^ 7) ^ ((prime - 5) / 8) := by
  have base : residue (numerator * (denominator * denominator * denominator) *
        (denominator * denominator * denominator) * denominator) =
      residue numerator * residue denominator ^ 7 := by
    simp only [residue_mul]
    ring
  rw [candidate, residue_mul, residue_power _ (by decide), base, residue_mul, residue_mul,
    residue_mul]
  ring

/-- A square to the power that the candidate is made with is a root of 1 or of −1, up to the factors
that the candidate has besides. -/
theorem sign_of_square {square half : ZMod prime} (nonzero : half ≠ 0)
    (squared : square = half ^ 2) :
    (square ^ ((prime - 5) / 8)) ^ 2 * square = 1 ∨
      (square ^ ((prime - 5) / 8)) ^ 2 * square = -1 := by
  have exponent : 2 * ((prime - 5) / 8 * 2 + 1) = prime / 2 := by decide
  have whole : (square ^ ((prime - 5) / 8)) ^ 2 * square = half ^ (prime / 2) := by
    rw [← pow_mul, ← pow_succ, squared, ← pow_mul, exponent]
  rw [whole]
  exact ZMod.pow_div_two_eq_neg_one_or_one prime nonzero

theorem check_of_square (square : residue denominator * root ^ 2 = residue numerator) :
    check numerator denominator = numerator ∨
      check numerator denominator = negate numerator := by
  have value : residue (check numerator denominator) = residue numerator *
      (((residue numerator * residue denominator ^ 7) ^ ((prime - 5) / 8)) ^ 2 *
        (residue numerator * residue denominator ^ 7)) := by
    rw [check, residue_mul, residue_mul, residue_candidate]
    generalize (residue numerator * residue denominator ^ 7) ^ ((prime - 5) / 8) = power
    ring
  by_cases zero : residue numerator = 0
  · left
    apply residue_injective
    rw [value, zero, zero_mul]
  · have squared : residue numerator * residue denominator ^ 7 =
        (root * residue denominator ^ 4) ^ 2 := by
      rw [← square]
      ring
    have nonzero : root * residue denominator ^ 4 ≠ 0 := by
      intro vanishes
      apply zero
      rcases mul_eq_zero.mp vanishes with root_zero | power_zero
      · rw [← square, root_zero]
        simp
      · rw [← square, pow_eq_zero_iff (by decide) |>.mp power_zero, zero_mul]
    rcases sign_of_square nonzero squared with one | minus
    · left
      apply residue_injective
      rw [value, one, mul_one]
    · right
      apply residue_injective
      rw [value, minus, residue_negate, mul_neg_one]

/-- A root is found if and only if there is one. -/
theorem root_of_quotient_is_some_iff :
    (rootOfQuotient? numerator denominator).isSome = true ↔
      ∃ root : ZMod prime, residue denominator * root ^ 2 = residue numerator := by
  constructor
  · intro some
    obtain ⟨root, found⟩ := Option.isSome_iff_exists.mp some
    exact ⟨residue root, mul_sq_of_root_of_quotient found⟩
  · rintro ⟨root, square⟩
    rw [root_of_quotient_eq]
    rcases check_of_square square with same | opposite
    · rw [if_pos same]
      rfl
    · rw [if_pos opposite]
      split_ifs <;> rfl

end Field25519

namespace Edwards25519

open Field25519

variable {block : Block 32}

def ordinate (block : Block 32) : ZMod prime :=
  (LittleEndian.value block.bytes % 2 ^ 255 : ℕ)

/-- The curve has a point with the `y` that the bytes give. -/
def GivesPoint (block : Block 32) : Prop := ∃ element : Element, element.y = ordinate block

theorem decode_is_some_iff : (decode? block).isSome = true ↔ GivesPoint block := by
  have given : residue (ofNat (LittleEndian.value block.bytes % Nat.pow 2 255)) = ordinate block :=
    residue_of_nat _
  rw [decode?, Option.isSome_map, root_of_quotient_is_some_iff]
  simp only [residue_add, residue_sub, residue_mul, residue_one, given]
  constructor
  · rintro ⟨root, square⟩
    exact ⟨⟨root, ordinate block, by linear_combination -square⟩, rfl⟩
  · rintro ⟨⟨x, y, onCurve⟩, rfl⟩
    exact ⟨x, by linear_combination -onCurve⟩

end Edwards25519

/-- The keys of the scheme are the bytes that give a point. -/
theorem is_public_key_ed25519_iff {block : Block 32} :
    ed25519.isPublicKey block = true ↔ Edwards25519.GivesPoint block := by
  have decoded : ed25519.isPublicKey block = (Edwards25519.decode? block).isSome := by
    simp only [ed25519, EdwardsScheme.signatureScheme, EdwardsScheme.isPublicKey, edwards25519]
  rw [decoded, Edwards25519.decode_is_some_iff]

end SignedResponse
