import SignedResponse.Config.Settings
import SignedResponse.Http.Exchange
import SignedResponse.Signature.Signer

/-!
Signed responses, as a server sends them.
-/

namespace SignedResponse

namespace Signer

def headers (names : HeaderNames) (parameters : Parameters) (signature : FullSignature) :
    Except HttpError Headers := do
  let signatureName ← HeaderName.ofText names.signature
  let signatureValue ← HeaderValue.ofBytes (Utf8.encode signature.base64)
  let dateName ← HeaderName.ofText names.requestDate
  let dateValue ← HeaderValue.ofBytes (Utf8.encode (Decimal.text parameters.requestDate.toNat))
  let signed := (Headers.empty.append signatureName signatureValue).append dateName dateValue
  match parameters.etag with
  | none => return signed
  | some etag =>
      let etagName ← HeaderName.ofText names.etag
      let etagValue ← HeaderValue.ofBytes (Utf8.encode etag)
      return signed.append etagName etagValue

/-- A response whose body is the message of the parameters. When the status says that there is no
new body, the signature covers none. -/
def respond (scheme : SignatureScheme) (signer : Signer) (names : HeaderNames) (status : Status)
    (parameters : Parameters) (salt : Block 16) : Except HttpError Response := do
  let signed := if status = .notModified then { parameters with message := none } else parameters
  let headers ← headers names signed (signer.sign scheme signed salt)
  return { status, headers, body := parameters.message }

end Signer

end SignedResponse
