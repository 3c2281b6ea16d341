import SignedResponse.Block

/-!
The hash function SHA-512.

A message is padded to whole groups of 128 bytes. Each group is spread over eighty words and
folded into eight running words, which are the digest. Words are `UInt64`, so all sums are
modulo 2^64.
-/

namespace SignedResponse.Sha512

/-- The round constants: the first 64 fractional bits of the cube roots of the first eighty
primes. -/
def roundConstants : List UInt64 := [
    0x428A2F98D728AE22, 0x7137449123EF65CD, 0xB5C0FBCFEC4D3B2F, 0xE9B5DBA58189DBBC,
    0x3956C25BF348B538, 0x59F111F1B605D019, 0x923F82A4AF194F9B, 0xAB1C5ED5DA6D8118,
    0xD807AA98A3030242, 0x12835B0145706FBE, 0x243185BE4EE4B28C, 0x550C7DC3D5FFB4E2,
    0x72BE5D74F27B896F, 0x80DEB1FE3B1696B1, 0x9BDC06A725C71235, 0xC19BF174CF692694,
    0xE49B69C19EF14AD2, 0xEFBE4786384F25E3, 0x0FC19DC68B8CD5B5, 0x240CA1CC77AC9C65,
    0x2DE92C6F592B0275, 0x4A7484AA6EA6E483, 0x5CB0A9DCBD41FBD4, 0x76F988DA831153B5,
    0x983E5152EE66DFAB, 0xA831C66D2DB43210, 0xB00327C898FB213F, 0xBF597FC7BEEF0EE4,
    0xC6E00BF33DA88FC2, 0xD5A79147930AA725, 0x06CA6351E003826F, 0x142929670A0E6E70,
    0x27B70A8546D22FFC, 0x2E1B21385C26C926, 0x4D2C6DFC5AC42AED, 0x53380D139D95B3DF,
    0x650A73548BAF63DE, 0x766A0ABB3C77B2A8, 0x81C2C92E47EDAEE6, 0x92722C851482353B,
    0xA2BFE8A14CF10364, 0xA81A664BBC423001, 0xC24B8B70D0F89791, 0xC76C51A30654BE30,
    0xD192E819D6EF5218, 0xD69906245565A910, 0xF40E35855771202A, 0x106AA07032BBD1B8,
    0x19A4C116B8D2D0C8, 0x1E376C085141AB53, 0x2748774CDF8EEB99, 0x34B0BCB5E19B48A8,
    0x391C0CB3C5C95A63, 0x4ED8AA4AE3418ACB, 0x5B9CCA4F7763E373, 0x682E6FF3D6B2B8A3,
    0x748F82EE5DEFB2FC, 0x78A5636F43172F60, 0x84C87814A1F0AB72, 0x8CC702081A6439EC,
    0x90BEFFFA23631E28, 0xA4506CEBDE82BDE9, 0xBEF9A3F7B2C67915, 0xC67178F2E372532B,
    0xCA273ECEEA26619C, 0xD186B8C721C0C207, 0xEADA7DD6CDE0EB1E, 0xF57D4F7FEE6ED178,
    0x06F067AA72176FBA, 0x0A637DC5A2C898A6, 0x113F9804BEF90DAE, 0x1B710B35131C471B,
    0x28DB77F523047D84, 0x32CAAB7B40C72493, 0x3C9EBE0A15C9BEBC, 0x431D67C49C100D4C,
    0x4CC5D4BECB3E42B6, 0x597F299CFC657E2A, 0x5FCB6FAB3AD6FAEC, 0x6C44198C4A475817]

structure Words where
  a : UInt64
  b : UInt64
  c : UInt64
  d : UInt64
  e : UInt64
  f : UInt64
  g : UInt64
  h : UInt64

/-- The running words before the first group: the first 64 fractional bits of the square roots of
the first eight primes. -/
def initial : Words where
  a := 0x6A09E667F3BCC908
  b := 0xBB67AE8584CAA73B
  c := 0x3C6EF372FE94F82B
  d := 0xA54FF53A5F1D36F1
  e := 0x510E527FADE682D1
  f := 0x9B05688C2B3E6C1F
  g := 0x1F83D9ABFB41BD6B
  h := 0x5BE0CD19137E2179

def rotateRight (word count : UInt64) : UInt64 := (word >>> count) ||| (word <<< (64 - count))

def sum0 (word : UInt64) : UInt64 :=
  rotateRight word 28 ^^^ rotateRight word 34 ^^^ rotateRight word 39

def sum1 (word : UInt64) : UInt64 :=
  rotateRight word 14 ^^^ rotateRight word 18 ^^^ rotateRight word 41

def spread0 (word : UInt64) : UInt64 := rotateRight word 1 ^^^ rotateRight word 8 ^^^ (word >>> 7)

def spread1 (word : UInt64) : UInt64 :=
  rotateRight word 19 ^^^ rotateRight word 61 ^^^ (word >>> 6)

def choose (x y z : UInt64) : UInt64 := (x &&& y) ^^^ ((~~~x) &&& z)

def majority (x y z : UInt64) : UInt64 := (x &&& y) ^^^ (x &&& z) ^^^ (y &&& z)

def bigEndian (bytes : List UInt8) : UInt64 :=
  bytes.foldl (fun word byte => (word <<< 8) ||| byte.toUInt64) 0

def wordBytes (word : UInt64) : List UInt8 :=
  [(word >>> 56).toUInt8, (word >>> 48).toUInt8, (word >>> 40).toUInt8, (word >>> 32).toUInt8,
    (word >>> 24).toUInt8, (word >>> 16).toUInt8, (word >>> 8).toUInt8, word.toUInt8]

def pieces (size : Nat) : Nat → List UInt8 → List (List UInt8)
  | 0, _ => []
  | count + 1, bytes => bytes.take size :: pieces size count (bytes.drop size)

/-- One more word of the schedule, from those sixteen, fifteen, seven and two places back. -/
def extend (schedule : Array UInt64) : Array UInt64 :=
  let back (places : Nat) := schedule.getD (schedule.size - places) 0
  schedule.push (spread1 (back 2) + back 7 + spread0 (back 15) + back 16)

def schedule (group : List UInt8) : Array UInt64 :=
  (List.range 64).foldl (fun words _ => extend words) ((pieces 8 16 group).map bigEndian).toArray

def round (words : Words) (input : UInt64 × UInt64) : Words :=
  let first := words.h + sum1 words.e + choose words.e words.f words.g + input.1 + input.2
  let second := sum0 words.a + majority words.a words.b words.c
  { a := first + second, b := words.a, c := words.b, d := words.c
    e := words.d + first, f := words.e, g := words.f, h := words.g }

def compress (words : Words) (group : List UInt8) : Words :=
  let after := (roundConstants.zip (schedule group).toList).foldl round words
  { a := words.a + after.a, b := words.b + after.b, c := words.c + after.c, d := words.d + after.d
    e := words.e + after.e, f := words.f + after.f, g := words.g + after.g, h := words.h + after.h }

/-- A one bit, zeros up to the last sixteen bytes of a group, and the bit length of the message. -/
def padding (length : Nat) : List UInt8 :=
  (0x80 : UInt8) :: (List.replicate ((239 - length % 128) % 128) 0
    ++ (LittleEndian.bytes 16 (8 * length)).reverse)

def digest (message : List UInt8) : Block 64 :=
  let padded := message ++ padding message.length
  let words := (pieces 128 (padded.length / 128) padded).foldl compress initial
  ⟨wordBytes words.a ++ wordBytes words.b ++ wordBytes words.c ++ wordBytes words.d
    ++ wordBytes words.e ++ wordBytes words.f ++ wordBytes words.g ++ wordBytes words.h, rfl⟩

end SignedResponse.Sha512
