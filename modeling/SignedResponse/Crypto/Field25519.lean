import SignedResponse.Block

/-!
The field of integers modulo 2^255 − 19.

Elements are `Fin prime`, so every value is already reduced and equality is equality of numbers.
-/

namespace SignedResponse

namespace Field25519

def prime : Nat := 57896044618658097711785492504343953926634992332820282019728792003956564819949

end Field25519

abbrev Field25519 := Fin Field25519.prime

namespace Field25519

def ofNat (number : Nat) : Field25519 :=
  ⟨number % prime, Nat.mod_lt number (by decide)⟩

def zero : Field25519 := ofNat 0

def one : Field25519 := ofNat 1

/-- The lowest `count` binary digits of a number, least significant first. -/
def bits : Nat → Nat → List Bool
  | 0, _ => []
  | count + 1, number => (number % 2 == 1) :: bits count (number / 2)

def power (base : Field25519) (exponent : Nat) : Field25519 :=
  (bits 255 exponent).foldr
    (fun bit result => if bit then result * result * base else result * result) one

/-- The inverse of every element but zero, whose value is zero. -/
def inverse (element : Field25519) : Field25519 := power element (prime - 2)

def negate (element : Field25519) : Field25519 := zero - element

def rootOfMinusOne : Field25519 :=
  ofNat 19681161376707505956807079304988542015446066515923890162744021073123829784752

/-- A root of `numerator / denominator`, when the quotient is a square.

With `c` the quotient raised to `(prime + 3) / 8`, either `c` or `c` times a root of −1 is a root,
or there is none. -/
def rootOfQuotient? (numerator denominator : Field25519) : Option Field25519 :=
  let cube := denominator * denominator * denominator
  let candidate := numerator * cube *
    power (numerator * cube * cube * denominator) ((prime - 5) / 8)
  let check := denominator * candidate * candidate
  if check = numerator then some candidate
  else if check = negate numerator then some (candidate * rootOfMinusOne)
  else none

end Field25519

end SignedResponse
