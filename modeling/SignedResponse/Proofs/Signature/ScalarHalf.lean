import SignedResponse.Proofs.Crypto.Ed25519
import SignedResponse.Proofs.Signature.TrustChain
import SignedResponse.Proofs.Signature.Verdict

/-!
The second half of a signature cannot be exchanged.

A signature text has two signatures in it, and the second half of each is neither signed nor hashed.
It is still determined by all the rest: where one text is accepted, another one that has other
scalars in it is not, whether it was made by the holder of a key or not.
-/

namespace SignedResponse

theorem extract_within (bytes : List UInt8) {low high start stop : Nat} (after : low ≤ start)
    (before : stop ≤ high) :
    bytes.extract start stop =
      ((bytes.extract low high).drop (start - low)).take (stop - start) := by
  simp only [List.extract_eq_take_drop, List.drop_take, List.drop_drop, List.take_take]
  congr 1
  · omega
  · congr 1
    omega

theorem extract_eq_of_within {left right : List UInt8} {low high : Nat}
    (same : left.extract low high = right.extract low high) {start stop : Nat} (after : low ≤ start)
    (before : stop ≤ high) : left.extract start stop = right.extract start stop := by
  rw [extract_within left after before, extract_within right after before, same]

theorem ed25519_eq_of_verifies {key : PublicKey} {message : List UInt8} {left right : Signature}
    (commitments : left.block.bytes.take 32 = right.block.bytes.take 32)
    (leftVerifies : ed25519.verifies key message left = true)
    (rightVerifies : ed25519.verifies key message right = true) : left = right := by
  dsimp only [ed25519, EdwardsScheme.signatureScheme] at leftVerifies rightVerifies
  exact EdwardsScheme.eq_of_verifies ⟨edwards25519, Sha512.digest⟩ edwards25519_separates_scalars
    (Block.eq_of_bytes_eq commitments) leftVerifies rightVerifies

namespace FullSignature

variable {root : PublicKey} {now : Instant} {parameters : Parameters} {left right : FullSignature}

/-- The bytes agree wherever a signature text has no scalar. -/
structure SameButScalars (left right : List UInt8) : Prop where
  upToFirst : left.extract 0 68 = right.extract 0 68
  between : left.extract 100 148 = right.extract 100 148

theorem extract_halves (signature : FullSignature) :
    signature.bytes.extract 36 68 = signature.certificate.signature.block.bytes.take 32 ∧
      signature.bytes.extract 68 100 = signature.certificate.signature.block.bytes.drop 32 ∧
      signature.bytes.extract 116 148 = signature.payload.block.bytes.take 32 := by
  obtain ⟨-, -, certificate, -, payload⟩ := signature.extract_bytes
  have size : (signature.certificate.signature.block.bytes.drop 32).length ≤ 32 := by
    rw [List.length_drop, signature.certificate.signature.block.length_eq]
  refine ⟨?_, ?_, ?_⟩
  · rw [extract_within _ (show 36 ≤ 36 by decide) (show 68 ≤ 100 by decide), certificate]
    rfl
  · rw [extract_within _ (show 36 ≤ 68 by decide) (show 100 ≤ 100 by decide), certificate]
    exact List.take_of_length_le size
  · rw [extract_within _ (show 116 ≤ 116 by decide) (show 148 ≤ 180 by decide), payload]
    rfl

namespace SameButScalars

variable (same : SameButScalars left.bytes right.bytes)
include same

theorem symm : SameButScalars right.bytes left.bytes := ⟨same.upToFirst.symm, same.between.symm⟩

theorem signed_message_eq :
    Certificate.signedMessage left.certificate.key left.certificate.expiration =
      Certificate.signedMessage right.certificate.key right.certificate.expiration := by
  rw [Certificate.signedMessage, Certificate.signedMessage, ← left.extract_bytes.1,
    ← right.extract_bytes.1, ← left.extract_bytes.2.1, ← right.extract_bytes.2.1,
    extract_eq_of_within same.upToFirst (Nat.zero_le 0) (show 32 ≤ 68 by decide),
    extract_eq_of_within same.upToFirst (Nat.zero_le 32) (show 36 ≤ 68 by decide)]

theorem salt_eq : left.salt = right.salt := by
  apply Block.eq_of_bytes_eq
  rw [← left.extract_bytes.2.2.2.1, ← right.extract_bytes.2.2.2.1]
  exact extract_eq_of_within same.between (by decide) (by decide)

theorem certificate_half_eq : left.certificate.signature.block.bytes.take 32 =
    right.certificate.signature.block.bytes.take 32 := by
  rw [← left.extract_halves.1, ← right.extract_halves.1]
  exact extract_eq_of_within same.upToFirst (by decide) (by decide)

theorem payload_half_eq : left.payload.block.bytes.take 32 =
    right.payload.block.bytes.take 32 := by
  rw [← left.extract_halves.2.2, ← right.extract_halves.2.2]
  exact extract_eq_of_within same.between (by decide) (by decide)

theorem certificate_eq (scalars : left.bytes.extract 68 100 = right.bytes.extract 68 100) :
    left.certificate = right.certificate := by
  apply Certificate.eq_of_same_message same.signed_message_eq
  rw [left.extract_halves.2.1, right.extract_halves.2.1] at scalars
  exact Signature.eq_of_halves same.certificate_half_eq scalars

end SameButScalars

/-- Beside an accepted text, one with other scalars is refused for the first signature in which it
departs. -/
theorem check_of_other_scalars (same : SameButScalars left.bytes right.bytes)
    (different : left.bytes ≠ right.bytes)
    (accepted : check ed25519 root now left.base64 parameters = .ok ()) :
    check ed25519 root now right.base64 parameters =
      .error (if left.bytes.extract 68 100 = right.bytes.extract 68 100 then .wrongPayload
        else .untrustedKey) := by
  obtain ⟨found, text, key, trusted, verified⟩ := check_eq_ok_iff.mp accepted
  cases base64_injective text
  obtain ⟨signed, -, -, rfl⟩ := Certificate.validate_eq_ok_iff.mp trusted
  split_ifs with scalars
  · have certificates := same.certificate_eq scalars
    refine check_of_same_certificate accepted certificates.symm fun acceptedToo => ?_
    obtain ⟨other, otherText, otherKey, otherTrusted, otherVerified⟩ :=
      check_eq_ok_iff.mp acceptedToo
    cases base64_injective otherText
    obtain ⟨-, -, -, rfl⟩ := Certificate.validate_eq_ok_iff.mp otherTrusted
    rw [← certificates, ← same.salt_eq] at otherVerified
    have payloads := ed25519_eq_of_verifies same.payload_half_eq verified otherVerified
    apply different
    rw [FullSignature.bytes, FullSignature.bytes, certificates, same.salt_eq, payloads]
  · refine check_of_refused (Certificate.validate_of_unsigned fun signedToo => scalars ?_)
    unfold Certificate.IsSigned at signed signedToo
    rw [← same.signed_message_eq] at signedToo
    rw [left.extract_halves.2.1, right.extract_halves.2.1,
      ed25519_eq_of_verifies same.certificate_half_eq signed signedToo]

/-- Of two different texts that agree but for their scalars at most one is accepted. The other one
is refused for its certificate when the scalars on the certificates differ, and else for its
payload. -/
theorem scalars_not_malleable {leftText rightText : String} {leftBytes rightBytes : List UInt8}
    (leftDecoded : Base64.decodeText leftText = some leftBytes)
    (rightDecoded : Base64.decodeText rightText = some rightBytes)
    (leftSize : leftBytes.length = 180) (rightSize : rightBytes.length = 180)
    (same : SameButScalars leftBytes rightBytes) (different : leftBytes ≠ rightBytes)
    (root : PublicKey) (now : Instant) (parameters : Parameters) :
    let answer := fun text => check ed25519 root now text parameters
    ¬(answer leftText = .ok () ∧ answer rightText = .ok ()) ∧
      (leftBytes.extract 68 100 ≠ rightBytes.extract 68 100 →
        (answer leftText = .ok () → answer rightText = .error .untrustedKey) ∧
          (answer rightText = .ok () → answer leftText = .error .untrustedKey)) ∧
      (leftBytes.extract 68 100 = rightBytes.extract 68 100 →
        (answer leftText = .ok () → answer rightText = .error .wrongPayload) ∧
          (answer rightText = .ok () → answer leftText = .error .wrongPayload)) := by
  intro answer
  obtain ⟨left, rfl, rfl⟩ := exists_of_decoded leftDecoded leftSize
  obtain ⟨right, rfl, rfl⟩ := exists_of_decoded rightDecoded rightSize
  have forward : answer left.base64 = .ok () → answer right.base64 = _ :=
    check_of_other_scalars same different
  have backward : answer right.base64 = .ok () → answer left.base64 = _ :=
    check_of_other_scalars same.symm different.symm
  refine ⟨?_, fun apart => ?_, fun alike => ?_⟩
  · rintro ⟨leftAccepted, rightAccepted⟩
    rw [forward leftAccepted] at rightAccepted
    cases rightAccepted
  · rw [if_neg apart] at forward
    rw [if_neg (Ne.symm apart)] at backward
    exact ⟨forward, backward⟩
  · rw [if_pos alike] at forward
    rw [if_pos alike.symm] at backward
    exact ⟨forward, backward⟩

def respelled (signature : Signature) : Signature where
  block :=
    { bytes := signature.block.bytes.take 32 ++
        LittleEndian.bytes 32 (EdwardsScheme.scalar signature + Edwards25519.order)
      length_eq := by
        rw [List.length_append, List.length_take, signature.block.length_eq,
          LittleEndian.length_bytes]
        rfl }

/-- The captured signature is accepted, and no signature with a respelled scalar in it is. -/
theorem captured_health_not_respelled :
    let honest := capturedHealth
    let payload := { honest with payload := respelled honest.payload }
    let certificate :=
      { honest with certificate.signature := respelled honest.certificate.signature }
    let parameters : Parameters :=
      { message := some [0x22, 0x22, 0x0A]
        nonce := some [0x31, 0x32, 0x33, 0x34, 0x35, 0x36, 0x37, 0x38, 0x39, 0x30, 0x61, 0x62]
        requestDate := 1688066733210 }
    let now : Instant := ⟨1688066733, 210000000, by decide⟩
    check ed25519 .root now honest.base64 parameters = .ok () ∧
      check ed25519 .root now payload.base64 parameters = .error .wrongPayload ∧
      check ed25519 .root now certificate.base64 parameters = .error .untrustedKey := by
  intro honest payload certificate parameters now
  have genuine : honest.certificate.IsSigned ed25519 .root := by
    unfold Certificate.IsSigned
    decide +kernel
  have trusted := Certificate.validate_eq_ok_iff.mpr
    ⟨genuine, show honest.certificate.expiration.InForce now by decide, by decide +kernel, rfl⟩
  have accepted : check ed25519 .root now honest.base64 parameters = .ok () :=
    check_eq_ok_iff.mpr ⟨honest, rfl, _, trusted, by decide +kernel⟩
  have decoded : ∀ signature : FullSignature,
      Base64.decodeText signature.base64 = some signature.bytes :=
    fun signature => Base64.decode_text_eq_some_iff.mpr rfl
  obtain ⟨-, -, alike⟩ := scalars_not_malleable (decoded honest) (decoded payload) rfl rfl
    ⟨by decide, by decide⟩ (by decide +kernel) .root now parameters
  obtain ⟨-, apart, -⟩ := scalars_not_malleable (decoded honest) (decoded certificate) rfl rfl
    ⟨by decide, by decide⟩ (by decide) .root now parameters
  exact ⟨accepted, (alike (by decide)).1 accepted, (apart (by decide)).1 accepted⟩

end FullSignature

end SignedResponse
