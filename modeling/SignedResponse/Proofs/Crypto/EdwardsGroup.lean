import Mathlib.Algebra.Field.Basic
import Mathlib.Algebra.Group.Even
import Mathlib.Tactic.FieldSimp
import Mathlib.Tactic.LinearCombination
import Mathlib.Tactic.Ring

/-!
The points of a complete twisted Edwards curve −x² + y² = 1 + d·x²·y² are a commutative group.

The addition law is one pair of fractions for all pairs of points. That no denominator of it
vanishes is completeness, and holds when −1 is a square and `d` is none. Associativity is then an
identity of polynomials modulo the three equations of the curve.
-/

namespace SignedResponse

@[ext]
structure EdwardsPoint {K : Type} [Field K] (d : K) where
  x : K
  y : K
  onCurve : y ^ 2 - x ^ 2 = 1 + d * x ^ 2 * y ^ 2

namespace EdwardsPoint

section Polynomials

variable {K : Type} [CommRing K] {d x₁ y₁ x₂ y₂ x₃ y₃ : K}

theorem on_curve_numerators (first : y₁ ^ 2 - x₁ ^ 2 = 1 + d * x₁ ^ 2 * y₁ ^ 2)
    (second : y₂ ^ 2 - x₂ ^ 2 = 1 + d * x₂ ^ 2 * y₂ ^ 2) :
    (y₁ * y₂ + x₁ * x₂) ^ 2 * (1 + d * x₁ * x₂ * y₁ * y₂) ^ 2 -
        (x₁ * y₂ + y₁ * x₂) ^ 2 * (1 - d * x₁ * x₂ * y₁ * y₂) ^ 2 =
      (1 + d * x₁ * x₂ * y₁ * y₂) ^ 2 * (1 - d * x₁ * x₂ * y₁ * y₂) ^ 2 +
        d * (x₁ * y₂ + y₁ * x₂) ^ 2 * (y₁ * y₂ + x₁ * x₂) ^ 2 := by
  -- The difference of the squares is a product, and so is known from the two equations.
  have difference : (y₁ * y₂ + x₁ * x₂) ^ 2 - (x₁ * y₂ + y₁ * x₂) ^ 2 =
      (1 + d * x₁ ^ 2 * y₁ ^ 2) * (1 + d * x₂ ^ 2 * y₂ ^ 2) := by
    linear_combination (y₂ ^ 2 - x₂ ^ 2) * first + (1 + d * x₁ ^ 2 * y₁ ^ 2) * second
  have sum₁ : (x₁ ^ 2 + y₁ ^ 2) ^ 2 = (1 + d * x₁ ^ 2 * y₁ ^ 2) ^ 2 + 4 * x₁ ^ 2 * y₁ ^ 2 := by
    linear_combination (y₁ ^ 2 - x₁ ^ 2 + 1 + d * x₁ ^ 2 * y₁ ^ 2) * first
  have sum₂ : (x₂ ^ 2 + y₂ ^ 2) ^ 2 = (1 + d * x₂ ^ 2 * y₂ ^ 2) ^ 2 + 4 * x₂ ^ 2 * y₂ ^ 2 := by
    linear_combination (y₂ ^ 2 - x₂ ^ 2 + 1 + d * x₂ ^ 2 * y₂ ^ 2) * second
  linear_combination (1 + (d * x₁ * x₂ * y₁ * y₂) ^ 2) * difference -
    d * x₂ ^ 2 * y₂ ^ 2 * sum₁ - d * x₁ ^ 2 * y₁ ^ 2 * sum₂

variable (first : y₁ ^ 2 - x₁ ^ 2 = 1 + d * x₁ ^ 2 * y₁ ^ 2)
  (second : y₂ ^ 2 - x₂ ^ 2 = 1 + d * x₂ ^ 2 * y₂ ^ 2)
  (third : y₃ ^ 2 - x₃ ^ 2 = 1 + d * x₃ ^ 2 * y₃ ^ 2)
include first second third

/-- The two sums of three points have the same `x`: numerators and denominators, crosswise. -/
theorem assoc_x :
    ((x₁ * y₂ + y₁ * x₂) * (1 - d * x₁ * x₂ * y₁ * y₂) * y₃ +
        (y₁ * y₂ + x₁ * x₂) * (1 + d * x₁ * x₂ * y₁ * y₂) * x₃) *
      ((1 + d * x₂ * x₃ * y₂ * y₃) * (1 - d * x₂ * x₃ * y₂ * y₃) +
        d * (x₂ * y₃ + y₂ * x₃) * (y₂ * y₃ + x₂ * x₃) * x₁ * y₁) =
    ((x₂ * y₃ + y₂ * x₃) * (1 - d * x₂ * x₃ * y₂ * y₃) * y₁ +
        (y₂ * y₃ + x₂ * x₃) * (1 + d * x₂ * x₃ * y₂ * y₃) * x₁) *
      ((1 + d * x₁ * x₂ * y₁ * y₂) * (1 - d * x₁ * x₂ * y₁ * y₂) +
        d * (x₁ * y₂ + y₁ * x₂) * (y₁ * y₂ + x₁ * x₂) * x₃ * y₃) := by
  linear_combination
    -d * x₂ * y₂ *
        (d * x₃ * y₃ * (x₂ * y₂) ^ 2 * (x₁ * x₂ * x₃ - y₁ * y₂ * x₃ - y₁ * x₂ * y₃ + x₁ * y₂ * y₃) +
          (x₃ ^ 3 + x₃) * x₂ * y₂ * (x₁ * x₂ + y₁ * y₂) -
          (y₃ ^ 3 - y₃) * x₂ * y₂ * (x₁ * y₂ + y₁ * x₂) +
          x₃ * y₃ * (x₁ * x₂ ^ 3 * x₃ + y₁ * y₂ ^ 3 * x₃ - y₁ * x₂ ^ 3 * y₃ - x₁ * y₂ ^ 3 * y₃)) *
      first +
    d * x₂ * y₂ *
        (x₃ * y₃ * ((x₁ ^ 3 + x₁) * (y₂ * y₃ + x₂ * x₃) + (y₁ ^ 3 - y₁) * (x₂ * y₃ + y₂ * x₃)) -
          x₁ * y₁ *
            ((x₃ ^ 3 + x₃) * (y₁ * y₂ + x₁ * x₂) + (y₃ ^ 3 - y₃) * (x₁ * y₂ + y₁ * x₂))) *
      second +
    d * x₂ * y₂ *
        (d * x₁ * y₁ * (x₂ * y₂) ^ 2 * (x₁ * x₂ * x₃ - x₁ * y₂ * y₃ - y₁ * x₂ * y₃ + y₁ * y₂ * x₃) +
          (x₁ ^ 3 + x₁) * x₂ * y₂ * (x₂ * x₃ + y₂ * y₃) -
          (y₁ ^ 3 - y₁) * x₂ * y₂ * (x₂ * y₃ + y₂ * x₃) +
          x₁ * y₁ * (x₁ * x₂ ^ 3 * x₃ + x₁ * y₂ ^ 3 * y₃ - y₁ * x₂ ^ 3 * y₃ - y₁ * y₂ ^ 3 * x₃)) *
      third

theorem assoc_y :
    ((y₁ * y₂ + x₁ * x₂) * (1 + d * x₁ * x₂ * y₁ * y₂) * y₃ +
        (x₁ * y₂ + y₁ * x₂) * (1 - d * x₁ * x₂ * y₁ * y₂) * x₃) *
      ((1 + d * x₂ * x₃ * y₂ * y₃) * (1 - d * x₂ * x₃ * y₂ * y₃) -
        d * (x₂ * y₃ + y₂ * x₃) * (y₂ * y₃ + x₂ * x₃) * x₁ * y₁) =
    ((y₂ * y₃ + x₂ * x₃) * (1 + d * x₂ * x₃ * y₂ * y₃) * y₁ +
        (x₂ * y₃ + y₂ * x₃) * (1 - d * x₂ * x₃ * y₂ * y₃) * x₁) *
      ((1 + d * x₁ * x₂ * y₁ * y₂) * (1 - d * x₁ * x₂ * y₁ * y₂) -
        d * (x₁ * y₂ + y₁ * x₂) * (y₁ * y₂ + x₁ * x₂) * x₃ * y₃) := by
  linear_combination
    -d * x₂ * y₂ *
        (d * x₃ * y₃ * (x₂ * y₂) ^ 2 * (y₁ * x₂ * x₃ - x₁ * y₂ * x₃ - x₁ * x₂ * y₃ + y₁ * y₂ * y₃) +
          (x₃ ^ 3 + x₃) * x₂ * y₂ * (x₁ * y₂ + y₁ * x₂) -
          (y₃ ^ 3 - y₃) * x₂ * y₂ * (y₁ * y₂ + x₁ * x₂) +
          x₃ * y₃ * (y₁ * x₂ ^ 3 * x₃ + x₁ * y₂ ^ 3 * x₃ - x₁ * x₂ ^ 3 * y₃ - y₁ * y₂ ^ 3 * y₃)) *
      first +
    d * x₂ * y₂ *
        (x₁ * y₁ * ((x₃ ^ 3 + x₃) * (x₁ * y₂ + y₁ * x₂) + (y₃ ^ 3 - y₃) * (y₁ * y₂ + x₁ * x₂)) -
          x₃ * y₃ *
            ((x₁ ^ 3 + x₁) * (x₂ * y₃ + y₂ * x₃) + (y₁ ^ 3 - y₁) * (y₂ * y₃ + x₂ * x₃))) *
      second +
    d * x₂ * y₂ *
        (d * x₁ * y₁ * (x₂ * y₂) ^ 2 * (x₁ * x₂ * y₃ - x₁ * y₂ * x₃ - y₁ * x₂ * x₃ + y₁ * y₂ * y₃) +
          (x₁ ^ 3 + x₁) * x₂ * y₂ * (x₂ * y₃ + y₂ * x₃) -
          (y₁ ^ 3 - y₁) * x₂ * y₂ * (y₂ * y₃ + x₂ * x₃) +
          x₁ * y₁ * (x₁ * x₂ ^ 3 * y₃ + x₁ * y₂ ^ 3 * x₃ - y₁ * x₂ ^ 3 * x₃ - y₁ * y₂ ^ 3 * y₃)) *
      third

end Polynomials

variable {K : Type} [Field K] {d : K}

/-- The product that tells the denominators of a sum from 1. -/
def shift (left right : EdwardsPoint d) : K := d * left.x * right.x * left.y * right.y

class Complete (d : K) : Prop where
  denominators_ne_zero : ∀ left right : EdwardsPoint d,
    1 + shift left right ≠ 0 ∧ 1 - shift left right ≠ 0

theorem is_square_of_mul_sq {root factor : K} (nonzero : factor ≠ 0)
    (square : root ^ 2 = d * factor ^ 2) : IsSquare d := by
  refine ⟨root / factor, ?_⟩
  field_simp
  exact square.symm

section Completeness

variable {i : K} (root : i ^ 2 = -1) (two : (2 : K) ≠ 0) (nonsquare : ¬IsSquare d)
include root two nonsquare

theorem shift_ne_sign {sign : K} (unit : sign ^ 2 = 1) (left right : EdwardsPoint d) :
    shift left right ≠ sign := by
  obtain ⟨x₁, y₁, first⟩ := left
  obtain ⟨x₂, y₂, second⟩ := right
  intro same
  have product : d * x₁ * x₂ * y₁ * y₂ = sign := same
  have signNonzero : sign ≠ 0 := by
    rintro rfl
    simp at unit
  have base : x₁ * y₁ ≠ 0 := by
    intro vanishes
    apply signNonzero
    linear_combination -product + d * x₂ * y₂ * vanishes
  have plus : (i * x₁ + sign * y₁) ^ 2 = d * (x₁ * y₁ * (i * x₂ + y₂)) ^ 2 := by
    linear_combination (x₁ ^ 2 - d * x₁ ^ 2 * y₁ ^ 2 * x₂ ^ 2) * root + (y₁ ^ 2 - 1) * unit +
      first - d * x₁ ^ 2 * y₁ ^ 2 * second -
      (d * x₁ * x₂ * y₁ * y₂ + sign + 2 * i * x₁ * y₁) * product
  have minus : (i * x₁ - sign * y₁) ^ 2 = d * (x₁ * y₁ * (i * x₂ - y₂)) ^ 2 := by
    linear_combination (x₁ ^ 2 - d * x₁ ^ 2 * y₁ ^ 2 * x₂ ^ 2) * root + (y₁ ^ 2 - 1) * unit +
      first - d * x₁ ^ 2 * y₁ ^ 2 * second -
      (d * x₁ * x₂ * y₁ * y₂ + sign - 2 * i * x₁ * y₁) * product
  -- Each makes `d` a square unless its last factor vanishes, and if both do, then so does `y₂`.
  have plusZero : i * x₂ + y₂ = 0 := by
    by_contra nonzero
    exact nonsquare (is_square_of_mul_sq (mul_ne_zero base nonzero) plus)
  have minusZero : i * x₂ - y₂ = 0 := by
    by_contra nonzero
    exact nonsquare (is_square_of_mul_sq (mul_ne_zero base nonzero) minus)
  have double : 2 * y₂ = 0 := by linear_combination plusZero - minusZero
  have zero : y₂ = 0 := (mul_eq_zero.mp double).resolve_left two
  apply signNonzero
  rw [← product, zero, mul_zero]

/-- Where −1 is a square, the curve is complete as soon as its constant is no square. -/
theorem complete_of_not_is_square : Complete d := by
  constructor
  intro left right
  constructor
  · intro vanishes
    refine shift_ne_sign root two nonsquare (by ring : (-1 : K) ^ 2 = 1) left right ?_
    linear_combination vanishes
  · intro vanishes
    refine shift_ne_sign root two nonsquare (one_pow 2) left right ?_
    linear_combination -vanishes

end Completeness

section Fractions

variable {X Y A B x y : K} (plus : A ≠ 0) (minus : B ≠ 0)
include plus minus

theorem on_curve_of_numerators
    (numerators : Y ^ 2 * A ^ 2 - X ^ 2 * B ^ 2 = A ^ 2 * B ^ 2 + d * X ^ 2 * Y ^ 2) :
    (Y / B) ^ 2 - (X / A) ^ 2 = 1 + d * (X / A) ^ 2 * (Y / B) ^ 2 := by
  field_simp
  linear_combination numerators

theorem denominator_x :
    1 + d * (X / A) * x * (Y / B) * y = (A * B + d * X * Y * x * y) / (A * B) := by
  field_simp

theorem denominator_y :
    1 - d * (X / A) * x * (Y / B) * y = (A * B - d * X * Y * x * y) / (A * B) := by
  field_simp

theorem fraction_x :
    (X / A * y + Y / B * x) / (1 + d * (X / A) * x * (Y / B) * y) =
      (X * B * y + Y * A * x) / (A * B + d * X * Y * x * y) := by
  have numerator : X / A * y + Y / B * x = (X * B * y + Y * A * x) / (A * B) := by
    field_simp
  rw [numerator, denominator_x plus minus, div_div_div_cancel_right₀ (mul_ne_zero plus minus)]

theorem fraction_y :
    (Y / B * y + X / A * x) / (1 - d * (X / A) * x * (Y / B) * y) =
      (Y * A * y + X * B * x) / (A * B - d * X * Y * x * y) := by
  have numerator : Y / B * y + X / A * x = (Y * A * y + X * B * x) / (A * B) := by
    field_simp
  rw [numerator, denominator_y plus minus, div_div_div_cancel_right₀ (mul_ne_zero plus minus)]

end Fractions

section Group

variable [complete : Complete d]

instance : Add (EdwardsPoint d) where
  add left right :=
    { x := (left.x * right.y + left.y * right.x) / (1 + shift left right)
      y := (left.y * right.y + left.x * right.x) / (1 - shift left right)
      onCurve := by
        obtain ⟨plus, minus⟩ := complete.denominators_ne_zero left right
        exact on_curve_of_numerators plus minus (on_curve_numerators left.onCurve right.onCurve) }

instance : Zero (EdwardsPoint d) where
  zero := ⟨0, 1, by ring⟩

instance : Neg (EdwardsPoint d) where
  neg point := ⟨-point.x, point.y, by linear_combination point.onCurve⟩

theorem x_add (left right : EdwardsPoint d) :
    (left + right).x = (left.x * right.y + left.y * right.x) / (1 + shift left right) := rfl

theorem y_add (left right : EdwardsPoint d) :
    (left + right).y = (left.y * right.y + left.x * right.x) / (1 - shift left right) := rfl

theorem sum_comm (left right : EdwardsPoint d) : left + right = right + left := by
  have same : shift left right = shift right left := by
    rw [shift, shift]
    ring
  ext
  · rw [x_add, x_add, same]
    ring
  · rw [y_add, y_add, same]
    ring

theorem zero_sum (point : EdwardsPoint d) : 0 + point = point := by
  have none : shift 0 point = 0 := by
    change d * 0 * point.x * 1 * point.y = 0
    ring
  ext
  · rw [x_add, none]
    change (0 * point.y + 1 * point.x) / (1 + 0) = point.x
    ring
  · rw [y_add, none]
    change (1 * point.y + 0 * point.x) / (1 - 0) = point.y
    ring

theorem neg_sum (point : EdwardsPoint d) : -point + point = 0 := by
  obtain ⟨-, minus⟩ := complete.denominators_ne_zero (-point) point
  ext
  · rw [x_add]
    change (-point.x * point.y + point.y * point.x) / _ = 0
    rw [neg_mul, mul_comm point.x, neg_add_cancel, zero_div]
  · rw [y_add, div_eq_iff minus, shift]
    change point.y * point.y + -point.x * point.x =
      1 * (1 - d * -point.x * point.x * point.y * point.y)
    linear_combination point.onCurve

theorem sum_assoc (first second third : EdwardsPoint d) :
    first + second + third = first + (second + third) := by
  obtain ⟨plus₁₂, minus₁₂⟩ := complete.denominators_ne_zero first second
  obtain ⟨plus₂₃, minus₂₃⟩ := complete.denominators_ne_zero second third
  obtain ⟨plusLeft, minusLeft⟩ := complete.denominators_ne_zero (first + second) third
  obtain ⟨plusRight, minusRight⟩ := complete.denominators_ne_zero (second + third) first
  rw [sum_comm first (second + third)]
  ext
  · have left := (denominator_x plus₁₂ minus₁₂).symm.trans_ne plusLeft
    have right := (denominator_x plus₂₃ minus₂₃).symm.trans_ne plusRight
    refine (fraction_x plus₁₂ minus₁₂).trans (Eq.trans ?_ (fraction_x plus₂₃ minus₂₃).symm)
    rw [div_eq_div_iff (div_ne_zero_iff.mp left).1 (div_ne_zero_iff.mp right).1]
    exact assoc_x first.onCurve second.onCurve third.onCurve
  · have left := (denominator_y plus₁₂ minus₁₂).symm.trans_ne minusLeft
    have right := (denominator_y plus₂₃ minus₂₃).symm.trans_ne minusRight
    refine (fraction_y plus₁₂ minus₁₂).trans (Eq.trans ?_ (fraction_y plus₂₃ minus₂₃).symm)
    rw [div_eq_div_iff (div_ne_zero_iff.mp left).1 (div_ne_zero_iff.mp right).1]
    exact assoc_y first.onCurve second.onCurve third.onCurve

instance : AddCommGroup (EdwardsPoint d) where
  add_assoc := sum_assoc
  zero_add := zero_sum
  add_zero point := (sum_comm point 0).trans (zero_sum point)
  neg_add_cancel := neg_sum
  add_comm := sum_comm
  nsmul := nsmulRec
  zsmul := zsmulRec

end Group

end EdwardsPoint

end SignedResponse
