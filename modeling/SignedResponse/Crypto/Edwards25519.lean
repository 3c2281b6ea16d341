import SignedResponse.Crypto.Curve
import SignedResponse.Crypto.Field25519

/-!
The twisted Edwards curve −x² + y² = 1 + d·x²·y² over the field of 2^255 − 19 elements.

A `Point` holds reduced affine coordinates, so equal points are equal values. Sums and multiples
are computed in extended coordinates, which need no inversion on the way, and brought back.
-/

namespace SignedResponse.Edwards25519

open Field25519

def d : Field25519 :=
  ofNat 37095705934669439343138083508754565189542113879843219016388785533085940283555

def twiceD : Field25519 := d + d

structure Point where
  x : Field25519
  y : Field25519
deriving DecidableEq

/-- A point as `x = X / Z`, `y = Y / Z` and `x * y = T / Z`. -/
structure Extended where
  X : Field25519
  Y : Field25519
  Z : Field25519
  T : Field25519

namespace Extended

def ofPoint (point : Point) : Extended := ⟨point.x, point.y, one, point.x * point.y⟩

def toPoint (point : Extended) : Point :=
  let scale := inverse point.Z
  ⟨point.X * scale, point.Y * scale⟩

def neutral : Extended := ⟨zero, one, one, zero⟩

/-- The addition law. It is complete: it holds for all pairs of points, equal ones included. -/
def add (left right : Extended) : Extended :=
  let a := (left.Y - left.X) * (right.Y - right.X)
  let b := (left.Y + left.X) * (right.Y + right.X)
  let c := left.T * twiceD * right.T
  let e := left.Z * right.Z
  let product := e + e
  let h := b - a
  let f := product - c
  let g := product + c
  let k := b + a
  ⟨h * f, g * k, f * g, h * k⟩

def double (point : Extended) : Extended :=
  let a := point.X * point.X
  let b := point.Y * point.Y
  let square := point.Z * point.Z
  let k := a + b
  let sum := point.X + point.Y
  let h := k - sum * sum
  let g := a - b
  let f := square + square + g
  ⟨h * f, g * k, f * g, h * k⟩

def multiply (factor : Nat) (point : Extended) : Extended :=
  (bits 256 factor).foldr
    (fun bit result => if bit then add (double result) point else double result) neutral

end Extended

def add (left right : Point) : Point :=
  (Extended.add (Extended.ofPoint left) (Extended.ofPoint right)).toPoint

def negate (point : Point) : Point := ⟨Field25519.negate point.x, point.y⟩

def multiply (factor : Nat) (point : Point) : Point :=
  (Extended.multiply factor (Extended.ofPoint point)).toPoint

def neutral : Point := ⟨zero, one⟩

def base : Point where
  x := ofNat 15112221349535400772501151409588531511454012693041857206046113283949847762202
  y := ofNat 46316835694926478169428394003475163141307993866256225615783033603165251855960

def order : Nat := 7237005577332262213973186563042994240857116359379907606001950938285454250989

def hasSmallOrder (point : Point) : Bool :=
  (Extended.ofPoint point).double.double.double.toPoint = neutral

/-- A point is written as its `y`, with the lowest bit of `x` in the highest bit of the 32 bytes. -/
def encode (point : Point) : Block 32 :=
  LittleEndian.block 32 (point.y.val + point.x.val % 2 * Nat.pow 2 255)

/-- Any 32 bytes whose `y` has an `x` on the curve. A `y` that is not reduced is read modulo the
field, and a sign on `x = 0` is ignored. -/
def decode? (block : Block 32) : Option Point :=
  let number := LittleEndian.value block.bytes
  let y := ofNat (number % Nat.pow 2 255)
  (rootOfQuotient? (y * y - one) (d * (y * y) + one)).map fun root =>
    ⟨if root.val % 2 = number / Nat.pow 2 255 then root else Field25519.negate root, y⟩

end Edwards25519

def edwards25519 : Curve where
  Point := Edwards25519.Point
  order := Edwards25519.order
  base := Edwards25519.base
  add := Edwards25519.add
  negate := Edwards25519.negate
  multiply := Edwards25519.multiply
  hasSmallOrder := Edwards25519.hasSmallOrder
  decode? := Edwards25519.decode?
  encode := Edwards25519.encode

end SignedResponse
