import SignedResponse.Crypto.Ed25519
import SignedResponse.Proofs.Crypto.Edwards25519
import SignedResponse.Proofs.LittleEndian

/-!
A commitment leaves no choice of the scalar.

What is compared with the commitment is a multiple of the base point less something that depends on
commitment, key and message alone, written as bytes. Different reduced scalars give different
multiples, so of all signatures with one commitment at most one verifies.
-/

namespace SignedResponse

/-- Two multiples of the base point stay different when one multiple of a point that can be decoded
is taken off both, and so do the bytes that they are written in. -/
def Curve.SeparatesScalars (curve : Curve) : Prop :=
  ∀ (block : Block 32) (keyPoint : curve.Point), curve.decode? block = some keyPoint →
    ∀ factor < curve.order, ∀ left < curve.order, ∀ right < curve.order,
      curve.encode (curve.add (curve.multiply left curve.base)
          (curve.negate (curve.multiply factor keyPoint))) =
        curve.encode (curve.add (curve.multiply right curve.base)
          (curve.negate (curve.multiply factor keyPoint))) →
      left = right

theorem edwards25519_separates_scalars : edwards25519.SeparatesScalars := by
  intro block keyPoint decoded factor factorBound left leftBound right rightBound same
  dsimp only [edwards25519] at decoded
  obtain ⟨element, stands⟩ := Edwards25519.Point.exists_is_of_decode decoded
  have orderFits : Edwards25519.order < 2 ^ 256 := by decide
  have fits : factor < 2 ^ 256 := Nat.lt_trans factorBound orderFits
  exact Edwards25519.eq_of_encode_add_multiply_base leftBound rightBound
    (Edwards25519.Point.negate_is (Edwards25519.Point.multiply_is stands fits)) same

theorem Signature.eq_of_halves {left right : Signature}
    (first : left.block.bytes.take 32 = right.block.bytes.take 32)
    (second : left.block.bytes.drop 32 = right.block.bytes.drop 32) : left = right := by
  obtain ⟨leftBlock⟩ := left
  obtain ⟨rightBlock⟩ := right
  have bytes : leftBlock.bytes = rightBlock.bytes := by
    rw [← List.take_append_drop 32 leftBlock.bytes, first, second, List.take_append_drop]
  cases Block.eq_of_bytes_eq bytes
  rfl

namespace EdwardsScheme

variable {scheme : EdwardsScheme} {key : PublicKey} {message : List UInt8}
  {signature left right : Signature}

/-- The rules of strict verification. -/
theorem verifies_iff :
    scheme.verifies key message signature = true ↔
      scalar signature < scheme.curve.order ∧ ∃ point keyPoint,
        scheme.curve.decode? (commitment signature) = some point ∧
        scheme.curve.decode? key.block = some keyPoint ∧
        scheme.curve.hasSmallOrder point = false ∧ scheme.curve.hasSmallOrder keyPoint = false ∧
        scheme.curve.encode (scheme.curve.add
          (scheme.curve.multiply (scalar signature) scheme.curve.base)
          (scheme.curve.negate (scheme.curve.multiply
            (scheme.challenge (commitment signature) key message) keyPoint))) =
          commitment signature := by
  unfold verifies
  by_cases reduced : scalar signature < scheme.curve.order
  · rw [if_pos reduced]
    cases scheme.curve.decode? (commitment signature) with
    | none => exact iff_of_false Bool.false_ne_true (by rintro ⟨-, _, _, ⟨⟩, _⟩)
    | some point =>
        cases scheme.curve.decode? key.block with
        | none => exact iff_of_false Bool.false_ne_true (by rintro ⟨-, _, _, -, ⟨⟩, _⟩)
        | some keyPoint =>
            constructor
            · intro verified
              simp only [Bool.if_false_left, Bool.and_eq_true, Bool.not_eq_true',
                decide_eq_true_eq, decide_eq_false_iff_not, Bool.not_eq_true,
                Bool.or_eq_false_iff] at verified
              exact ⟨reduced, point, keyPoint, rfl, rfl, verified.1.1, verified.1.2, verified.2⟩
            · rintro ⟨-, _, _, ⟨⟩, ⟨⟩, small, keySmall, equation⟩
              simp [small, keySmall, equation]
  · rw [if_neg reduced]
    exact iff_of_false Bool.false_ne_true fun held => reduced held.1

theorem eq_of_same_halves (commitments : commitment left = commitment right)
    (scalars : scalar left = scalar right) : left = right := by
  apply Signature.eq_of_halves (congrArg Block.bytes commitments)
  apply LittleEndian.eq_of_value_eq _ scalars
  rw [List.length_drop, List.length_drop, left.block.length_eq, right.block.length_eq]

/-- Of the signatures with one commitment a key verifies at most one for a message. -/
theorem eq_of_verifies (scheme : EdwardsScheme) (separates : scheme.curve.SeparatesScalars)
    (commitments : commitment left = commitment right)
    (leftVerifies : scheme.verifies key message left = true)
    (rightVerifies : scheme.verifies key message right = true) : left = right := by
  obtain ⟨leftBound, _, keyPoint, -, decoded, -, -, leftEquation⟩ := verifies_iff.mp leftVerifies
  obtain ⟨rightBound, _, keyPoint', -, decoded', -, -, rightEquation⟩ :=
    verifies_iff.mp rightVerifies
  rw [decoded] at decoded'
  cases decoded'
  rw [← commitments] at rightEquation
  have bound : scheme.challenge (commitment left) key message < scheme.curve.order :=
    Nat.mod_lt _ (Nat.zero_lt_of_lt leftBound)
  exact eq_of_same_halves commitments (separates key.block keyPoint decoded _ bound _ leftBound _
    rightBound (leftEquation.trans rightEquation.symm))

end EdwardsScheme

end SignedResponse
