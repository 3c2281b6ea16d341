import SignedResponse.Signature.Error
import SignedResponse.Block

/-!
The wire layout of a full signature: five components of fixed size, back to back.

There are no tags and no lengths, so the layout alone says where a component starts.
-/

namespace SignedResponse

inductive Component where
  | key
  | expiration
  | certificate
  | salt
  | payload
deriving DecidableEq

namespace Component

def all : List Component := [.key, .expiration, .certificate, .salt, .payload]

def size : Component → Nat
  | .key => 32
  | .expiration => 4
  | .certificate => 64
  | .salt => 16
  | .payload => 64

def totalSize : List Component → Nat
  | [] => 0
  | component :: rest => component.size + totalSize rest

def offset (component : Component) : Nat := totalSize (all.takeWhile (· ≠ component))

def total : Nat := totalSize all

theorem offset_add_size_le_total (component : Component) :
    component.offset + component.size ≤ total := by
  cases component <;> decide

/-- The bytes of a component, cut out of exactly as many bytes as a full signature has. -/
def slice (component : Component) (bytes : List UInt8) :
    Except SignatureError (Block component.size) :=
  if complete : bytes.length = total then
    .ok (Block.slice bytes component.offset component.size
      (complete ▸ component.offset_add_size_le_total))
  else .error (.wrongSize bytes.length)

end Component

end SignedResponse
