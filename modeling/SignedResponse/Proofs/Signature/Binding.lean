import Mathlib.Logic.Basic
import SignedResponse.Proofs.Signature.Coverage
import SignedResponse.Proofs.Signature.Layout

/-!
What a signature over a salt and parameters pins down.

The salt has a fixed width, so with a known width of the nonce both are read off the signed bytes.
The date is read off too when the number of its digits is known. Entity tag and message then form
one string, and nothing but the width of the tag tells where the message begins.
-/

namespace SignedResponse.Parameters

def nonceBytes (parameters : Parameters) : List UInt8 := parameters.nonce.getD []

def etagBytes (parameters : Parameters) : List UInt8 :=
  (parameters.etag.map Utf8.encode).getD []

def messageBytes (parameters : Parameters) : List UInt8 := parameters.message.getD []

variable {left right : Parameters} {salt other : Block 16}

theorem signed_message_eq_fields (parameters : Parameters) (salt : List UInt8) :
    parameters.signedMessage salt =
      salt ++ (parameters.nonceBytes ++
        (parameters.dateBytes ++ (parameters.etagBytes ++ parameters.messageBytes))) := by
  rw [signed_message_eq, List.append_assoc]
  rfl

theorem bytes_eq_of_same_fields (nonce : left.nonce = right.nonce)
    (date : left.requestDate = right.requestDate) (etag : left.etagBytes = right.etagBytes)
    (message : left.messageBytes = right.messageBytes) : left.bytes = right.bytes := by
  have fields := signed_message_eq_fields left []
  rw [nonceBytes, dateBytes, nonce, date, etag, message] at fields
  exact fields.trans (signed_message_eq_fields right []).symm

theorem signed_message_eq_iff_of_nonce
    (width : left.nonceBytes.length = right.nonceBytes.length) :
    left.signedMessage salt.bytes = right.signedMessage other.bytes ↔
      salt = other ∧ left.nonceBytes = right.nonceBytes ∧
        left.dateBytes ++ (left.etagBytes ++ left.messageBytes) =
          right.dateBytes ++ (right.etagBytes ++ right.messageBytes) := by
  rw [signed_message_eq_fields, signed_message_eq_fields]
  constructor
  · intro same
    obtain ⟨salts, same⟩ := Block.append_inj same
    obtain ⟨nonces, same⟩ := List.append_inj same width
    exact ⟨salts, nonces, same⟩
  · rintro ⟨rfl, nonces, same⟩
    rw [nonces, same]

/-- Dates with equally many digits take equally many bytes, so what follows starts at one place. -/
theorem date_append_eq_iff_of_digits {leftRest rightRest : List UInt8}
    (digits : (Decimal.digits left.requestDate.toNat).length =
      (Decimal.digits right.requestDate.toNat).length) :
    left.dateBytes ++ leftRest = right.dateBytes ++ rightRest ↔
      left.requestDate = right.requestDate ∧ leftRest = rightRest := by
  have width : left.dateBytes.length = right.dateBytes.length := by
    rw [length_date_bytes, length_date_bytes, digits]
  rw [List.append_eq_append_iff_of_size_eq_left width]
  apply and_congr_left'
  constructor
  · exact request_date_eq_of_same_bytes
  · intro dates
    rw [dateBytes, dateBytes, dates]

/-- What is signed for nonces of one width tells the salt and the nonce. When the dates have
equally many digits it tells the date as well, and the tag and the message as one string. When the
tags also have one width, it tells tag and message apart. -/
theorem signed_message_binds (salt other : Block 16) (left right : Parameters)
    (width : left.nonceBytes.length = right.nonceBytes.length) :
    (left.signedMessage salt.bytes = right.signedMessage other.bytes →
      salt = other ∧ left.nonceBytes = right.nonceBytes) ∧
    ((Decimal.digits left.requestDate.toNat).length =
        (Decimal.digits right.requestDate.toNat).length →
      (left.signedMessage salt.bytes = right.signedMessage other.bytes ↔
        salt = other ∧ left.nonceBytes = right.nonceBytes ∧
          left.requestDate = right.requestDate ∧
          left.etagBytes ++ left.messageBytes = right.etagBytes ++ right.messageBytes) ∧
      (left.etagBytes.length = right.etagBytes.length →
        (left.signedMessage salt.bytes = right.signedMessage other.bytes ↔
          salt = other ∧ left.nonceBytes = right.nonceBytes ∧
            left.requestDate = right.requestDate ∧
            left.etagBytes = right.etagBytes ∧ left.messageBytes = right.messageBytes))) := by
  rw [signed_message_eq_iff_of_nonce width]
  refine ⟨?_, ?_⟩
  · rintro ⟨salts, nonces, -⟩
    exact ⟨salts, nonces⟩
  · intro digits
    rw [date_append_eq_iff_of_digits digits]
    refine ⟨Iff.rfl, ?_⟩
    intro tags
    rw [List.append_eq_append_iff_of_size_eq_left tags]

/-- For one date, a byte that moves from the front of the message to the end of the tag leaves no
trace; another nonce or another tag of the same width does. -/
theorem health_check_binds :
    let parameters : Parameters :=
      { message := some [0x62, 0x63], nonce := some (List.replicate 12 7), etag := some "5a"
        requestDate := 1710072000000 }
    let moved : Parameters := { parameters with message := some [0x63], etag := some "5ab" }
    let replayed : Parameters := { parameters with nonce := some (List.replicate 12 8) }
    let retagged : Parameters := { parameters with etag := some "5b" }
    let salt : Block 16 := .replicate 16 3
    parameters.signedMessage salt.bytes = moved.signedMessage salt.bytes ∧
      parameters.signedMessage salt.bytes ≠ replayed.signedMessage salt.bytes ∧
      parameters.signedMessage salt.bytes ≠ retagged.signedMessage salt.bytes := by
  intro parameters moved replayed retagged salt
  refine ⟨?_, ?_, ?_⟩
  · apply ((signed_message_binds salt salt parameters moved rfl).2 rfl).1.mpr
    exact ⟨rfl, rfl, rfl, by decide⟩
  · intro same
    have nonces := ((signed_message_binds salt salt parameters replayed rfl).1 same).2
    exact absurd nonces (by decide)
  · intro same
    have fields := (((signed_message_binds salt salt parameters retagged rfl).2 rfl).2
      (by decide)).mp same
    exact absurd fields.2.2.2.1 (by decide)

end SignedResponse.Parameters
