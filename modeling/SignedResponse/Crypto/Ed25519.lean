import SignedResponse.Crypto.Edwards25519
import SignedResponse.Crypto.Sha512
import SignedResponse.Crypto.SignatureScheme

/-!
Ed25519 signatures with strict verification.

Verification is stricter than the equation alone: the scalar must be reduced, and neither the
commitment nor the key may be of small order. It is written for any `Curve` and any hash, and
`ed25519` is the instance that is used.
-/

namespace SignedResponse

structure EdwardsScheme where
  curve : Curve
  hash : List UInt8 → Block 64

namespace EdwardsScheme

variable (scheme : EdwardsScheme)

def commitment (signature : Signature) : Block 32 :=
  Block.slice signature.block.bytes 0 32 (by rw [signature.block.length_eq]; decide)

def scalar (signature : Signature) : Nat := LittleEndian.value (signature.block.bytes.drop 32)

/-- The number that ties a signature to commitment, key and message. -/
def challenge (commitment : Block 32) (key : PublicKey) (message : List UInt8) : Nat :=
  LittleEndian.value (scheme.hash (commitment.bytes ++ key.block.bytes ++ message)).bytes
    % scheme.curve.order

def isPublicKey (block : Block 32) : Bool := (scheme.curve.decode? block).isSome

/-- The equation `R = S * B - k * A`, for a reduced `S` and with neither `R` nor `A` of small
order. Its sides are compared as bytes, so an `R` that is not written as `encode` writes it is
refused. -/
def verifies (key : PublicKey) (message : List UInt8) (signature : Signature) : Bool :=
  if scalar signature < scheme.curve.order then
    match scheme.curve.decode? (commitment signature), scheme.curve.decode? key.block with
    | some point, some keyPoint =>
        if scheme.curve.hasSmallOrder point || scheme.curve.hasSmallOrder keyPoint then false
        else
          let expected := scheme.curve.add
            (scheme.curve.multiply (scalar signature) scheme.curve.base)
            (scheme.curve.negate (scheme.curve.multiply
              (scheme.challenge (commitment signature) key message) keyPoint))
          decide (scheme.curve.encode expected = commitment signature)
    | _, _ => false
  else false

/-- The private scalar: 255 bits, the lowest three zero and the highest one set. -/
def privateScalar (key : PrivateKey) : Nat :=
  let number := LittleEndian.value ((scheme.hash key.seed.bytes).bytes.take 32)
  number % Nat.pow 2 254 / 8 * 8 + Nat.pow 2 254

def publicKey (key : PrivateKey) : PublicKey :=
  ⟨scheme.curve.encode (scheme.curve.multiply (scheme.privateScalar key) scheme.curve.base)⟩

/-- The signature is determined by key and message: its random-looking part is a hash of both. -/
def sign (key : PrivateKey) (message : List UInt8) : Signature :=
  let secret := (scheme.hash key.seed.bytes).bytes.drop 32
  let nonce := LittleEndian.value (scheme.hash (secret ++ message)).bytes % scheme.curve.order
  let commitment := scheme.curve.encode (scheme.curve.multiply nonce scheme.curve.base)
  let challenge := scheme.challenge commitment (scheme.publicKey key) message
  let response := (nonce + challenge * scheme.privateScalar key) % scheme.curve.order
  ⟨⟨commitment.bytes ++ LittleEndian.bytes 32 response, by
    rw [List.length_append, commitment.length_eq, LittleEndian.length_bytes]⟩⟩

def signatureScheme : SignatureScheme where
  isPublicKey := scheme.isPublicKey
  verifies := scheme.verifies
  publicKey := scheme.publicKey
  sign := scheme.sign

end EdwardsScheme

def ed25519 : SignatureScheme := (EdwardsScheme.mk edwards25519 Sha512.digest).signatureScheme

end SignedResponse
