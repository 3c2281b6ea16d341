import SignedResponse.Signature.FullSignature

/-!
The server's side: signing responses with a certified key.

Salts and private keys come from the caller, so signing is a function of its inputs.
-/

namespace SignedResponse

structure Signer where
  key : PrivateKey
  expiration : Expiration
  certificate : Signature
deriving DecidableEq

namespace Signer

def certified (scheme : SignatureScheme) (root key : PrivateKey) (expiration : Expiration) :
    Signer :=
  let issued := Certificate.issue scheme root (scheme.publicKey key).block expiration
  ⟨key, expiration, issued.signature⟩

def sign (scheme : SignatureScheme) (signer : Signer) (parameters : Parameters)
    (salt : Block 16) : FullSignature :=
  { certificate := ⟨(scheme.publicKey signer.key).block, signer.expiration, signer.certificate⟩
    salt := salt
    payload := scheme.sign signer.key (parameters.signedMessage salt.bytes) }

/-- A signer for samples, whose key expires so many days after the sample moment. -/
def sample? (scheme : SignatureScheme) (root key : PrivateKey) (days : Int) : Option Signer :=
  (Instant.ofEpoch? (Instant.sample.seconds + days * Instant.secondsPerDay) 0).map fun expires =>
    certified scheme root key (.ofInstant expires)

end Signer

end SignedResponse
