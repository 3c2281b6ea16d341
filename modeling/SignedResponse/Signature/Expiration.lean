import SignedResponse.Block
import SignedResponse.Time.Instant

/-!
The expiration of a certified key: four bytes, little-endian days since 1970-01-01.

Zero is reserved and stands for no date. Day counts beyond the calendar have no date either.
-/

namespace SignedResponse

structure Expiration where
  block : Block 4
deriving DecidableEq

namespace Expiration

def maxDays : Nat := 4294967295

def undated : Expiration := ⟨Block.replicate 4 0⟩

/-- The expiration after so many days; a count that four bytes cannot hold is the largest one. -/
def ofDays (days : Nat) : Expiration := ⟨LittleEndian.block 4 (min days maxDays)⟩

/-- The day that holds an instant. Instants before 1970-01-02 have none. -/
def ofInstant (instant : Instant) : Expiration := ofDays instant.day.toNat

def days (expiration : Expiration) : Nat := LittleEndian.value expiration.block.bytes

def isUndated (expiration : Expiration) : Bool := expiration.days == 0

def date? (expiration : Expiration) : Option Instant :=
  if expiration.isUndated then none
  else Instant.ofEpoch? (expiration.days * Instant.secondsPerDay) 0

end Expiration

end SignedResponse
