import Mathlib.Data.List.Basic
import SignedResponse.Block
import SignedResponse.Proofs.Http.HeaderText
import SignedResponse.Signature.Parameters

/-!
Where the bytes that are signed for a response tell its date, and where they do not.

Nothing marks the end of the date. So the digits at its end and digits at the start of what follows
it can trade places, and that is the only way in which two dates are signed alike.
-/

namespace SignedResponse

theorem Utf8.encode_injective {left right : String} (same : encode left = encode right) :
    left = right := by
  apply String.toByteArray_inj.mp
  apply ByteArray.ext
  exact Array.toList_inj.mp same

namespace Parameters

variable {left right long short : Parameters} {salt : List UInt8}

def dateBytes (parameters : Parameters) : List UInt8 :=
  Utf8.encode (Decimal.text parameters.requestDate.toNat)

def rest (parameters : Parameters) : List UInt8 :=
  (parameters.etag.map Utf8.encode).getD [] ++ parameters.message.getD []

theorem signed_message_eq (parameters : Parameters) (salt : List UInt8) :
    parameters.signedMessage salt =
      (salt ++ parameters.nonce.getD []) ++ (parameters.dateBytes ++ parameters.rest) := by
  simp only [signedMessage, bytes, dateBytes, rest, List.append_assoc]

theorem length_date_bytes (parameters : Parameters) :
    parameters.dateBytes.length = (Decimal.digits parameters.requestDate.toNat).length := by
  have ascii : ∀ char ∈ (Decimal.text parameters.requestDate.toNat).toList, char.toNat < 128 :=
    fun _ member => (plain_of_mem_decimal member).ascii
  rw [dateBytes, Utf8.encode_ascii ascii, List.length_map, Decimal.to_list_text]

theorem request_date_eq_of_same_bytes (same : left.dateBytes = right.dateBytes) :
    left.requestDate = right.requestDate := by
  have digits := congrArg String.toList (Utf8.encode_injective same)
  rw [Decimal.to_list_text, Decimal.to_list_text] at digits
  exact UInt64.toNat_inj.mp (Decimal.digits_injective digits)

/-- The longer date continues the shorter one with digits that, beside the shorter one, stand at the
start of what follows. -/
def Absorbs (long short : Parameters) : Prop :=
  ∃ digits, digits ≠ [] ∧ long.dateBytes = short.dateBytes ++ digits ∧
    short.rest = digits ++ long.rest

theorem Absorbs.same_message (absorbs : long.Absorbs short) (nonce : long.nonce = short.nonce) :
    long.signedMessage salt = short.signedMessage salt := by
  obtain ⟨digits, -, date, rest⟩ := absorbs
  rw [signed_message_eq, signed_message_eq, nonce, date, rest, List.append_assoc short.dateBytes]

theorem Absorbs.more_digits (absorbs : long.Absorbs short) :
    (Decimal.digits short.requestDate.toNat).length <
      (Decimal.digits long.requestDate.toNat).length := by
  obtain ⟨digits, nonempty, date, -⟩ := absorbs
  have positive := List.length_pos_of_ne_nil nonempty
  rw [← length_date_bytes, ← length_date_bytes, date, List.length_append]
  omega

theorem Absorbs.less_rest (absorbs : long.Absorbs short) :
    long.rest.length < short.rest.length := by
  obtain ⟨digits, nonempty, -, rest⟩ := absorbs
  have positive := List.length_pos_of_ne_nil nonempty
  rw [rest, List.length_append]
  omega

/-- Two dates are signed alike exactly when one of them absorbs what follows the other. -/
theorem signed_alike_iff (nonce : left.nonce = right.nonce)
    (different : left.requestDate ≠ right.requestDate) :
    left.signedMessage salt = right.signedMessage salt ↔
      left.Absorbs right ∨ right.Absorbs left := by
  have nonempty : ∀ {digits : List UInt8} {first second : Parameters},
      first.requestDate ≠ second.requestDate → first.dateBytes = second.dateBytes ++ digits →
        digits ≠ [] := by
    rintro digits first second apart date rfl
    rw [List.append_nil] at date
    exact apart (request_date_eq_of_same_bytes date)
  constructor
  · intro same
    rw [signed_message_eq, signed_message_eq, nonce] at same
    -- The two borders between date and rest lie in one byte string, so one is not after the other.
    rcases List.append_eq_append_iff.mp (List.append_cancel_left same) with
      ⟨digits, date, rest⟩ | ⟨digits, date, rest⟩
    · exact Or.inr ⟨digits, nonempty different.symm date, date, rest⟩
    · exact Or.inl ⟨digits, nonempty different date, date, rest⟩
  · rintro (absorbs | absorbs)
    · exact absorbs.same_message nonce
    · exact (absorbs.same_message nonce.symm).symm

/-- A last digit of the date that moves to the front of the tag leaves no trace. -/
theorem signed_alike_of_moved_digit :
    ¬ ∀ (left right : Parameters) (salt : Block 16), left.nonce = right.nonce →
      left.requestDate ≠ right.requestDate →
        left.signedMessage salt.bytes ≠ right.signedMessage salt.bytes := by
  intro law
  let short : Parameters := { etag := some "5abc", requestDate := 1710072000000 }
  let long : Parameters := { etag := some "abc", requestDate := 17100720000005 }
  exact law short long (.replicate 16 3) rfl (by decide) (by decide)

/-- The dates have as many digits as each other, or as many bytes follow them. -/
def Aligned (left right : Parameters) : Prop :=
  (Decimal.digits left.requestDate.toNat).length = (Decimal.digits right.requestDate.toNat).length ∨
    left.rest.length = right.rest.length

theorem signed_apart (nonce : left.nonce = right.nonce)
    (different : left.requestDate ≠ right.requestDate) (aligned : left.Aligned right) :
    left.signedMessage salt ≠ right.signedMessage salt := by
  intro same
  rw [Aligned] at aligned
  rcases (signed_alike_iff nonce different).mp same with absorbs | absorbs
  · have digits := absorbs.more_digits
    have rest := absorbs.less_rest
    omega
  · have digits := absorbs.more_digits
    have rest := absorbs.less_rest
    omega

end Parameters

end SignedResponse
