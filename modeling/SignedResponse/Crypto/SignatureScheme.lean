import SignedResponse.Block

/-!
A signature scheme as its users see it: keys of 32 bytes, signatures of 64.

Everything that is built on signatures takes the scheme as a value, so what it does is stated for
every scheme and what it needs of one can be said as a hypothesis.
-/

namespace SignedResponse

/-- The 32 bytes of a public key. Two spellings of one point are two keys, since signatures cover
the bytes. -/
structure PublicKey where
  block : Block 32
deriving DecidableEq

structure PrivateKey where
  seed : Block 32
deriving DecidableEq

structure Signature where
  block : Block 64
deriving DecidableEq

structure SignatureScheme where
  isPublicKey : Block 32 → Bool
  verifies : PublicKey → List UInt8 → Signature → Bool
  publicKey : PrivateKey → PublicKey
  sign : PrivateKey → List UInt8 → Signature

end SignedResponse
