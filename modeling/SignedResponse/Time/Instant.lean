/-!
Instants: whole seconds since 1970-01-01 00:00 UTC, and nanoseconds into the second.

The calendar reaches from the year −262143 to the year 262142. Fractions from a thousand million
nanoseconds on are those of a leap second. An instant can have one after any second, but one that is
made of two numbers only after the last second of a minute.
-/

namespace SignedResponse

namespace Instant

def minSeconds : Int := -8334601228800

def maxSeconds : Int := 8210266876799

def Representable (seconds : Int) (nanoseconds : Nat) : Prop :=
  minSeconds ≤ seconds ∧ seconds ≤ maxSeconds ∧ nanoseconds < 2000000000

instance (seconds : Int) (nanoseconds : Nat) : Decidable (Representable seconds nanoseconds) := by
  unfold Representable; infer_instance

end Instant

structure Instant where
  seconds : Int
  nanoseconds : Nat
  representable : Instant.Representable seconds nanoseconds
deriving DecidableEq

namespace Instant

def ofEpoch? (seconds : Int) (nanoseconds : Nat) : Option Instant :=
  if nanoseconds < 1000000000 ∨ seconds % 60 = 59 then
    if representable : Representable seconds nanoseconds then
      some ⟨seconds, nanoseconds, representable⟩
    else none
  else none

def ofMillis? (millis : Nat) : Option Instant :=
  ofEpoch? (millis / 1000 : Nat) (millis % 1000 * 1000000)

def Before (left right : Instant) : Prop :=
  left.seconds < right.seconds ∨
    left.seconds = right.seconds ∧ left.nanoseconds < right.nanoseconds

instance (left right : Instant) : Decidable (Before left right) :=
  inferInstanceAs (Decidable (_ ∨ _))

instance : LT Instant := ⟨Before⟩

instance : LE Instant := ⟨fun left right => ¬ Before right left⟩

instance (left right : Instant) : Decidable (left < right) :=
  inferInstanceAs (Decidable (Before left right))

instance (left right : Instant) : Decidable (left ≤ right) :=
  inferInstanceAs (Decidable (¬ Before right left))

def secondsPerDay : Int := 86400

def day (instant : Instant) : Int := instant.seconds.fdiv secondsPerDay

/-- 2024-03-10 12:00 UTC, the moment at which sample signatures are made and read. -/
def sample : Instant := ⟨1710072000, 0, by decide⟩

end Instant

end SignedResponse
