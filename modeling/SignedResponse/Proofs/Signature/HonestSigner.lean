import Mathlib.Tactic.Common
import SignedResponse.Proofs.Signature.Validity
import SignedResponse.Signature.Signer

/-!
What a check answers to the signatures of a certified signer.

Of the scheme it is needed that the two signatures at hand are verified: the one on the certificate
and the one on the payload. The certificate's date then decides alone.
-/

namespace SignedResponse

/-- What a private key signs as this message, its public key verifies. -/
def SignatureScheme.HonestOn (scheme : SignatureScheme) (key : PrivateKey)
    (message : List UInt8) : Prop :=
  scheme.isPublicKey (scheme.publicKey key).block = true ∧
    scheme.verifies (scheme.publicKey key) message (scheme.sign key message) = true

instance (scheme : SignatureScheme) (key : PrivateKey) (message : List UInt8) :
    Decidable (scheme.HonestOn key message) :=
  inferInstanceAs (Decidable (_ ∧ _))

namespace Signer

variable {scheme : SignatureScheme} {root key : PrivateKey} {expiration : Expiration}
variable {now : Instant} {parameters : Parameters} {salt : Block 16}

section Certified

variable (certified : scheme.HonestOn root
  (Certificate.signedMessage (scheme.publicKey key).block expiration))
include certified

theorem is_signed_certificate :
    ((Signer.certified scheme root key expiration).sign scheme parameters
      salt).certificate.IsSigned scheme (scheme.publicKey root) :=
  certified.2

theorem check_sign_of_in_force
    (signed : scheme.HonestOn key (parameters.signedMessage salt.bytes))
    (inForce : expiration.InForce now) :
    FullSignature.check scheme (scheme.publicKey root) now
      ((Signer.certified scheme root key expiration).sign scheme parameters salt).base64
      parameters = .ok () := by
  have genuine : ((Signer.certified scheme root key expiration).sign scheme parameters
      salt).certificate.IsSigned scheme (scheme.publicKey root) :=
    is_signed_certificate certified
  have trusted := Certificate.validate_eq_ok_iff.mpr ⟨genuine, inForce, signed.1, rfl⟩
  rw [FullSignature.check_of_trusted trusted]
  exact if_pos signed.2

theorem check_sign_of_undated (undated : ¬ expiration.IsDated) :
    FullSignature.check scheme (scheme.publicKey root) now
      ((Signer.certified scheme root key expiration).sign scheme parameters salt).base64
      parameters = .error (.undatedKey expiration.days) :=
  FullSignature.check_of_refused
    (Certificate.validate_of_undated (is_signed_certificate certified) undated)

theorem check_sign_of_expired {midnight : Instant}
    (found : expiration.date? = some midnight)
    (expired : expiration.days * Instant.secondsPerDay ≤ now.seconds) :
    FullSignature.check scheme (scheme.publicKey root) now
      ((Signer.certified scheme root key expiration).sign scheme parameters salt).base64
      parameters = .error (.expiredKey midnight) :=
  FullSignature.check_of_refused
    (Certificate.validate_of_expired (is_signed_certificate certified) found expired)

end Certified

end Signer

end SignedResponse
