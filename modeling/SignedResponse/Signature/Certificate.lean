import SignedResponse.Crypto.SignatureScheme
import SignedResponse.Signature.Error
import SignedResponse.Signature.Expiration

/-!
Certificates: the root key vouches for another key until a day.

A certificate is validated with every signature that carries it, so a new or a withdrawn key takes
effect with the next response.
-/

namespace SignedResponse

structure Certificate where
  key : Block 32
  expiration : Expiration
  signature : Signature
deriving DecidableEq

namespace Certificate

def signedMessage (key : Block 32) (expiration : Expiration) : List UInt8 :=
  expiration.block.bytes ++ key.bytes

def issue (scheme : SignatureScheme) (root : PrivateKey) (key : Block 32)
    (expiration : Expiration) : Certificate :=
  ⟨key, expiration, scheme.sign root (signedMessage key expiration)⟩

/-- The certified key, when the root key signed the certificate, the certificate has an expiration
date, that date is still to come, and the bytes are a key. The clock is asked once there is a date
to compare with, and not before. -/
def validateBy {m : Type → Type} [Monad m] (scheme : SignatureScheme) (root : PublicKey)
    (clock : m Instant) (certificate : Certificate) : ExceptT SignatureError m PublicKey :=
  let signed := signedMessage certificate.key certificate.expiration
  if scheme.verifies root signed certificate.signature then
    match certificate.expiration.date? with
    | none => throw (.undatedKey certificate.expiration.days)
    | some expires => do
        let now ← clock
        if expires ≤ now then throw (.expiredKey expires)
        else if scheme.isPublicKey certificate.key then return ⟨certificate.key⟩
        else throw .untrustedKey
  else throw .untrustedKey

def validate (scheme : SignatureScheme) (root : PublicKey) (now : Instant)
    (certificate : Certificate) : Except SignatureError PublicKey :=
  (certificate.validateBy scheme root (pure now : Id Instant)).run

end Certificate

end SignedResponse
