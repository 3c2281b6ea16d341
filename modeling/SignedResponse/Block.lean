/-!
Byte strings of a stated length, and the little-endian numbers written in them.

Every fixed field of the signature format is a `Block`, so its size is checked once, where
the field is cut out, and never again.
-/

namespace SignedResponse

structure Block (size : Nat) where
  bytes : List UInt8
  length_eq : bytes.length = size
deriving DecidableEq

namespace Block

def ofList? (size : Nat) (bytes : List UInt8) : Option (Block size) :=
  if length_eq : bytes.length = size then some ⟨bytes, length_eq⟩ else none

def slice (bytes : List UInt8) (start size : Nat) (fits : start + size ≤ bytes.length) :
    Block size :=
  ⟨(bytes.drop start).take size, by simp only [List.length_take, List.length_drop]; omega⟩

def replicate (size : Nat) (byte : UInt8) : Block size :=
  ⟨List.replicate size byte, List.length_replicate⟩

theorem of_list_bytes {size : Nat} (block : Block size) :
    ofList? size block.bytes = some block := by
  simp [ofList?, block.length_eq]

theorem eq_of_bytes_eq {size : Nat} {left right : Block size} (same : left.bytes = right.bytes) :
    left = right := by
  cases left; cases right; cases same; rfl

end Block

namespace LittleEndian

/-- The number whose least significant byte comes first. -/
def value : List UInt8 → Nat
  | [] => 0
  | byte :: rest => byte.toNat + 256 * value rest

def bytes : Nat → Nat → List UInt8
  | 0, _ => []
  | size + 1, number => UInt8.ofNat (number % 256) :: bytes size (number / 256)

theorem length_bytes (size number : Nat) : (bytes size number).length = size := by
  induction size generalizing number with
  | zero => rfl
  | succ size induction => simp [bytes, induction]

def block (size number : Nat) : Block size := ⟨bytes size number, length_bytes size number⟩

end LittleEndian

end SignedResponse
