import SignedResponse.Proofs.Verification.Adjustment

/-!
The verifier that nothing is set for but the mode, a key and a time.

In disabled mode it asks for nothing. Otherwise the key is in effect, and a request with a nonce has
a response that proves itself or a failure.
-/

namespace SignedResponse

namespace Verifier

def standard (scheme : SignatureScheme) (mode : Mode) (key : PublicKey) (now : Instant) :
    Verifier (StateM Journal) :=
  (ofConfig scheme (.recording now) { mode }).withKey (some key)

variable (scheme : SignatureScheme) (mode : Mode) (key : PublicKey) (now : Instant)
variable (request : Request) (response : Response)

variable {mode}

end Verifier

end SignedResponse
