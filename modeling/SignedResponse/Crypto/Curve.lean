import SignedResponse.Block

/-!
What signing and strict verification need of a curve.

A verifier never looks inside a point. It decodes points, adds, negates and multiplies them, and
compares them; the order is that of the base point.
-/

namespace SignedResponse

structure Curve where
  Point : Type
  [pointDecidableEq : DecidableEq Point]
  order : Nat
  base : Point
  add : Point → Point → Point
  negate : Point → Point
  multiply : Nat → Point → Point
  /-- Whether eight times the point is the neutral point. -/
  hasSmallOrder : Point → Bool
  decode? : Block 32 → Option Point
  encode : Point → Block 32

instance (curve : Curve) : DecidableEq curve.Point := curve.pointDecidableEq

end SignedResponse
