import SignedResponse.Text.Decimal
import SignedResponse.Text.Utf8

/-!
What the signature of a response covers, and the bytes that are signed for it.

The parts stand back to back: nonce, request date in decimal, entity tag, message. An absent part
contributes no bytes, and nothing marks where a part ends.
-/

namespace SignedResponse

structure Parameters where
  message : Option (List UInt8) := none
  nonce : Option (List UInt8) := none
  etag : Option String := none
  /-- Milliseconds since 1970, as the server reports them. -/
  requestDate : UInt64
deriving DecidableEq

namespace Parameters

def bytes (parameters : Parameters) : List UInt8 :=
  parameters.nonce.getD [] ++ Utf8.encode (Decimal.text parameters.requestDate.toNat) ++
    (parameters.etag.map Utf8.encode).getD [] ++ parameters.message.getD []

def signedMessage (parameters : Parameters) (salt : List UInt8) : List UInt8 :=
  salt ++ parameters.bytes

end Parameters

end SignedResponse
