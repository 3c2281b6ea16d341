import SignedResponse.Log.Record
import SignedResponse.Time.Calendar

/-!
Why a signature is refused, what is said about it and how severe that is.
-/

namespace SignedResponse

inductive SignatureError where
  | notBase64 (text : String)
  | wrongSize (size : Nat)
  /-- The root key did not certify the key with this expiration, or the key is no key at all. -/
  | untrustedKey
  | undatedKey (days : Nat)
  | expiredKey (expiration : Instant)
  | wrongPayload
  | notPublicKey
deriving DecidableEq

namespace SignatureError

def message : SignatureError → String
  | .notBase64 text => "Signature is not base64: " ++ text
  | .wrongSize size => "Signature invalid size: " ++ Decimal.text size ++ " bytes"
  | .untrustedKey => "Intermediate key failed verification"
  | .undatedKey days => "Intermediate key invalid: " ++ Decimal.text days
  | .expiredKey expiration => "Intermediate key expired: " ++ expiration.text
  | .wrongPayload => "Signature failed verification"
  | .notPublicKey => "Invalid public key"

/-- A text that is no base64 is an error of the server; all else may be an attack in progress. -/
def level : SignatureError → Level
  | .notBase64 _ => .error
  | _ => .warn

def record (error : SignatureError) : LogRecord := ⟨error.level, error.message⟩

end SignatureError

end SignedResponse
