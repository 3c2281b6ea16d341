import SignedResponse.Base64
import SignedResponse.Crypto.SignatureScheme
import SignedResponse.Signature.Error
import SignedResponse.Text.Blank

/-!
The root key that all trust starts from, and keys that are given in its place.
-/

namespace SignedResponse

namespace PublicKey

def root : PublicKey :=
  ⟨⟨[0x50, 0x2D, 0x6E, 0xA5, 0x75, 0xA0, 0xE5, 0x05, 0x66, 0xC8, 0xE4, 0xB0, 0xA3, 0x3A, 0x7B, 0xE7,
    0x9C, 0x4B, 0xAA, 0xAB, 0x81, 0x2A, 0x38, 0xD4, 0xF9, 0xD8, 0xBA, 0x53, 0xC4, 0x21, 0x32, 0x53],
    rfl⟩⟩

def ofBytes (scheme : SignatureScheme) (bytes : List UInt8) : Except SignatureError PublicKey :=
  match Block.ofList? 32 bytes with
  | some block => if scheme.isPublicKey block then .ok ⟨block⟩ else .error .notPublicKey
  | none => .error .notPublicKey

/-- The key whose base64 form is the text, blanks around it left out. -/
def ofBase64 (scheme : SignatureScheme) (text : String) : Except SignatureError PublicKey :=
  match Base64.decode (Blank.trim text.toList) with
  | some bytes => ofBytes scheme bytes
  | none => .error .notPublicKey

end PublicKey

end SignedResponse
