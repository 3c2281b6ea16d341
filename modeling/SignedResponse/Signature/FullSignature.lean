import SignedResponse.Base64
import SignedResponse.Signature.Certificate
import SignedResponse.Signature.Component
import SignedResponse.Signature.Parameters

/-!
Full signatures: a certificate, a salt, and the certified key's signature over the salt and the
parameters of a response.

`check` is the whole verification of a signature text. It depends on the root key, on the time and
on the parameters, and on nothing else. `checkBy` is the same with a clock, which only a certificate
with the root key's signature and a date makes it ask.
-/

namespace SignedResponse

structure FullSignature where
  certificate : Certificate
  salt : Block 16
  payload : Signature
deriving DecidableEq

namespace FullSignature

def ofBytes (bytes : List UInt8) : Except SignatureError FullSignature := do
  let key ← Component.key.slice bytes
  let expiration ← Component.expiration.slice bytes
  let certificate ← Component.certificate.slice bytes
  let salt ← Component.salt.slice bytes
  let payload ← Component.payload.slice bytes
  return ⟨⟨key, ⟨expiration⟩, ⟨certificate⟩⟩, salt, ⟨payload⟩⟩

def bytes (signature : FullSignature) : List UInt8 :=
  signature.certificate.key.bytes ++ signature.certificate.expiration.block.bytes ++
    signature.certificate.signature.block.bytes ++ signature.salt.bytes ++
    signature.payload.block.bytes

def ofBase64 (text : String) : Except SignatureError FullSignature :=
  match Base64.decodeText text with
  | some bytes => ofBytes bytes
  | none => .error (.notBase64 text)

def base64 (signature : FullSignature) : String := Base64.encodeText signature.bytes

/-- The first reason to refuse a signature text, if there is one. -/
def checkBy {m : Type → Type} [Monad m] (scheme : SignatureScheme) (root : PublicKey)
    (clock : m Instant) (text : String) (parameters : Parameters) :
    ExceptT SignatureError m Unit := do
  let signature ← liftExcept (ofBase64 text)
  let key ← signature.certificate.validateBy scheme root clock
  if scheme.verifies key (parameters.signedMessage signature.salt.bytes) signature.payload then
    return ()
  else throw .wrongPayload

def check (scheme : SignatureScheme) (root : PublicKey) (now : Instant) (text : String)
    (parameters : Parameters) : Except SignatureError Unit :=
  (checkBy scheme root (pure now : Id Instant) text parameters).run

end FullSignature

end SignedResponse
