import Mathlib.GroupTheory.OrderOfElement
import SignedResponse.Crypto.Edwards25519
import SignedResponse.Proofs.Crypto.EdwardsGroup
import SignedResponse.Proofs.Crypto.Field25519
import SignedResponse.Proofs.LittleEndian

/-!
The formulas of the curve compute in the group of its points.

A point in extended coordinates stands for an element of the group, and sums, doubles and multiples
of it stand for those of the element. So multiples of the base point below the order are all
different, and what is added to two of them cannot make them equal.
-/

namespace SignedResponse.Edwards25519

open Field25519

instance : EdwardsPoint.Complete (residue d) :=
  EdwardsPoint.complete_of_not_is_square root_of_minus_one_sq two_ne_zero
    (not_is_square_of_power (by decide +kernel))

abbrev Element := EdwardsPoint (residue d)

/-- A point with the coordinates of an element. -/
structure Point.Is (point : Point) (element : Element) : Prop where
  x : residue point.x = element.x
  y : residue point.y = element.y

structure Extended.Is (point : Extended) (element : Element) : Prop where
  nonzero : residue point.Z ≠ 0
  x : residue point.X = element.x * residue point.Z
  y : residue point.Y = element.y * residue point.Z
  product : residue point.T = element.x * element.y * residue point.Z

theorem residue_twice_d : residue twiceD = 2 * residue d := by
  rw [twiceD, residue_add, two_mul]

namespace Extended

variable {left right point : Extended} {first second element : Element}

theorem neutral_is : neutral.Is 0 where
  nonzero := by
    rw [neutral, residue_one]
    exact one_ne_zero
  x := by
    change residue zero = 0 * residue one
    rw [residue_zero, zero_mul]
  y := by
    change residue one = 1 * residue one
    rw [one_mul]
  product := by
    change residue zero = 0 * 1 * residue one
    rw [residue_zero, zero_mul, zero_mul]

theorem of_point_is {point : Point} (stands : point.Is element) : (ofPoint point).Is element where
  nonzero := by
    rw [ofPoint, residue_one]
    exact one_ne_zero
  x := by rw [ofPoint, residue_one, mul_one, stands.x]
  y := by rw [ofPoint, residue_one, mul_one, stands.y]
  product := by rw [ofPoint, residue_one, mul_one, residue_mul, stands.x, stands.y]

theorem to_point_is (stands : point.Is element) : point.toPoint.Is element where
  x := by
    change residue (point.X * inverse point.Z) = element.x
    rw [residue_mul, residue_inverse, stands.x, mul_inv_cancel_right₀ stands.nonzero]
  y := by
    change residue (point.Y * inverse point.Z) = element.y
    rw [residue_mul, residue_inverse, stands.y, mul_inv_cancel_right₀ stands.nonzero]

/-- Both formulas compute the numerators and denominators of a sum up to a common factor for each
coordinate, and multiply them crosswise. -/
theorem is_of_factors {f g h k : Field25519} {scale other : ZMod prime} (scaled : scale ≠ 0)
    (otherScaled : other ≠ 0)
    (numeratorX : residue h = scale * (first.x * second.y + first.y * second.x))
    (denominatorX : residue g = scale * (1 + first.shift second))
    (numeratorY : residue k = other * (first.y * second.y + first.x * second.x))
    (denominatorY : residue f = other * (1 - first.shift second)) :
    (Extended.mk (h * f) (g * k) (f * g) (h * k)).Is (first + second) := by
  obtain ⟨plus, minus⟩ := EdwardsPoint.Complete.denominators_ne_zero first second
  have x : residue h = (first + second).x * residue g := by
    rw [EdwardsPoint.x_add, denominatorX, numeratorX]
    field_simp
  have y : residue k = (first + second).y * residue f := by
    rw [EdwardsPoint.y_add, denominatorY, numeratorY]
    field_simp
  constructor
  · rw [residue_mul, denominatorX, denominatorY]
    exact mul_ne_zero (mul_ne_zero otherScaled minus) (mul_ne_zero scaled plus)
  · simp only [residue_mul]
    linear_combination residue f * x
  · simp only [residue_mul]
    linear_combination residue g * y
  · simp only [residue_mul]
    linear_combination residue k * x + (first + second).x * residue g * y

theorem add_is (leftStands : left.Is first) (rightStands : right.Is second) :
    (left.add right).Is (first + second) := by
  have scaled : 2 * (residue left.Z * residue right.Z) ≠ 0 :=
    mul_ne_zero two_ne_zero (mul_ne_zero leftStands.nonzero rightStands.nonzero)
  refine is_of_factors scaled scaled ?_ ?_ ?_ ?_
  all_goals
    simp only [residue_add, residue_sub, residue_mul, residue_twice_d, leftStands.x, leftStands.y,
      leftStands.product, rightStands.x, rightStands.y, rightStands.product, EdwardsPoint.shift]
    ring

theorem double_is (stands : point.Is element) : point.double.Is (element + element) := by
  have scaled : residue point.Z ^ 2 ≠ 0 := pow_ne_zero 2 stands.nonzero
  have curve := element.onCurve
  refine is_of_factors (neg_ne_zero.mpr scaled) scaled ?_ ?_ ?_ ?_
  all_goals
    simp only [residue_add, residue_sub, residue_mul, stands.x, stands.y, EdwardsPoint.shift]
  · ring
  · linear_combination -residue point.Z ^ 2 * curve
  · ring
  · linear_combination -residue point.Z ^ 2 * curve

theorem multiply_is (stands : point.Is element) {factor : ℕ} (fits : factor < 2 ^ 256) :
    (multiply factor point).Is (factor • element) := by
  have digits := holds_foldr_bits (fun number (result : Extended) => result.Is (number • element))
    (fun bit result => if bit then add (double result) point else double result)
    (by rw [zero_nsmul]; exact neutral_is)
    (fun number result held => by
      rw [two_mul, add_nsmul]
      exact double_is held)
    (fun number result held => by
      rw [succ_nsmul, two_mul, add_nsmul]
      exact add_is (double_is held) stands) 256 factor
  rw [Nat.mod_eq_of_lt fits] at digits
  exact digits

end Extended

namespace Point

variable {left right point : Point} {first second element : Element}

theorem Is.unique (leftStands : left.Is element) (rightStands : right.Is element) :
    left = right := by
  obtain ⟨x, y⟩ := left
  obtain ⟨x', y'⟩ := right
  cases residue_injective (leftStands.x.trans rightStands.x.symm)
  cases residue_injective (leftStands.y.trans rightStands.y.symm)
  rfl

theorem Is.element_unique (stands : point.Is first) (also : point.Is second) : first = second :=
  EdwardsPoint.ext (stands.x.symm.trans also.x) (stands.y.symm.trans also.y)

theorem add_is (leftStands : left.Is first) (rightStands : right.Is second) :
    (add left right).Is (first + second) :=
  Extended.to_point_is
    (Extended.add_is (Extended.of_point_is leftStands) (Extended.of_point_is rightStands))

theorem negate_is (stands : point.Is element) : (Edwards25519.negate point).Is (-element) where
  x := by
    rw [Edwards25519.negate, residue_negate, stands.x]
    rfl
  y := stands.y

theorem multiply_is (stands : point.Is element) {factor : ℕ} (fits : factor < 2 ^ 256) :
    (multiply factor point).Is (factor • element) :=
  Extended.to_point_is (Extended.multiply_is (Extended.of_point_is stands) fits)

theorem exists_is_of_on_curve
    (onCurve : residue point.y ^ 2 - residue point.x ^ 2 =
      1 + residue d * residue point.x ^ 2 * residue point.y ^ 2) :
    ∃ element, point.Is element :=
  ⟨⟨residue point.x, residue point.y, onCurve⟩, rfl, rfl⟩

theorem exists_is_of_decode {block : Block 32} (decoded : decode? block = some point) :
    ∃ element, point.Is element := by
  unfold decode? at decoded
  dsimp only at decoded
  obtain ⟨root, found, rfl⟩ := Option.map_eq_some_iff.mp decoded
  have square := mul_sq_of_root_of_quotient found
  simp only [residue_add, residue_sub, residue_mul, residue_one] at square
  apply exists_is_of_on_curve
  split_ifs
  · linear_combination -square
  · rw [residue_negate]
    linear_combination -square

theorem encode_inj_coordinates (same : encode left = encode right) :
    left.y = right.y ∧ left.x.val % 2 = right.x.val % 2 := by
  have power : Nat.pow 2 255 = 2 ^ 255 := rfl
  have number : ∀ point : Point, LittleEndian.value (encode point).bytes =
      point.y.val + point.x.val % 2 * 2 ^ 255 := by
    intro point
    have bound := point.y.isLt
    rw [encode, LittleEndian.block, LittleEndian.value_bytes, power]
    apply Nat.mod_eq_of_lt
    unfold prime at bound
    omega
  have numbers := congrArg (fun block : Block 32 => LittleEndian.value block.bytes) same
  rw [number, number] at numbers
  have leftBound := left.y.isLt
  have rightBound := right.y.isLt
  unfold prime at leftBound rightBound
  refine ⟨Fin.ext ?_, ?_⟩ <;> omega

theorem x_eq_or_negate (leftStands : left.Is first) (rightStands : right.Is second)
    (same : left.y = right.y) : left.x = right.x ∨ left.x = Field25519.negate right.x := by
  have ordinate : first.y = second.y := by rw [← leftStands.y, ← rightStands.y, same]
  have leftCurve := first.onCurve
  have rightCurve := second.onCurve
  rw [ordinate] at leftCurve
  have product : (first.x ^ 2 - second.x ^ 2) * (1 + residue d * second.y ^ 2) = 0 := by
    linear_combination rightCurve - leftCurve
  have nonzero : 1 + residue d * second.y ^ 2 ≠ 0 := by
    intro zero
    -- Then `y` would be a root of 1, and the constant of the curve would be −1.
    have root : second.y ^ 2 = 1 := by linear_combination rightCurve + second.x ^ 2 * zero
    have minus : residue d = residue (Field25519.negate one) := by
      rw [residue_negate, residue_one]
      linear_combination zero - residue d * root
    exact absurd (residue_injective minus) (by decide)
  have squares : first.x ^ 2 = second.x ^ 2 :=
    sub_eq_zero.mp ((mul_eq_zero.mp product).resolve_right nonzero)
  rcases sq_eq_sq_iff_eq_or_eq_neg.mp squares with equal | opposite
  · left
    exact residue_injective (by rw [leftStands.x, rightStands.x, equal])
  · right
    exact residue_injective (by rw [residue_negate, leftStands.x, rightStands.x, opposite])

theorem Is.eq_of_encode (leftStands : left.Is first) (rightStands : right.Is second)
    (same : encode left = encode right) : left = right := by
  obtain ⟨ordinate, parity⟩ := encode_inj_coordinates same
  have abscissa : left.x = right.x := by
    rcases x_eq_or_negate leftStands rightStands ordinate with equal | opposite
    · exact equal
    · rw [opposite] at parity ⊢
      exact negate_eq_of_parity parity
  obtain ⟨x, y⟩ := left
  obtain ⟨x', y'⟩ := right
  cases abscissa
  cases ordinate
  rfl

end Point

theorem neutral_is : neutral.Is 0 where
  x := residue_zero
  y := residue_one

theorem exists_base_is : ∃ element, base.Is element := by
  have onCurve : base.y * base.y - base.x * base.x =
      one + d * (base.x * base.x) * (base.y * base.y) := by decide
  have image := congrArg residue onCurve
  simp only [residue_add, residue_sub, residue_mul, residue_one] at image
  apply Point.exists_is_of_on_curve
  linear_combination image

/-- The order is prime, the base point is not neutral, and its multiple by the order is. -/
theorem add_order_of_base {element : Element} (stands : base.Is element) :
    addOrderOf element = order := by
  have orderPrime : Fact (Nat.Prime order) := ⟨prime_order⟩
  have multiple : multiply order base = neutral := by decide +kernel
  apply addOrderOf_eq_prime
  · have whole := Point.multiply_is stands (show order < 2 ^ 256 by decide)
    rw [multiple] at whole
    exact whole.element_unique neutral_is
  · rintro rfl
    exact absurd (stands.unique neutral_is) (by decide)

theorem eq_of_encode_add_multiply_base {left right : ℕ} (leftBound : left < order)
    (rightBound : right < order) {point : Point} {element : Element} (stands : point.Is element)
    (same : encode (add (multiply left base) point) = encode (add (multiply right base) point)) :
    left = right := by
  obtain ⟨generator, generates⟩ := exists_base_is
  have fits : order < 2 ^ 256 := by decide
  have leftSum := Point.add_is (Point.multiply_is generates (leftBound.trans fits)) stands
  have rightSum := Point.add_is (Point.multiply_is generates (rightBound.trans fits)) stands
  rw [leftSum.eq_of_encode rightSum same] at leftSum
  have multiples : left • generator = right • generator :=
    add_right_cancel (leftSum.element_unique rightSum)
  rw [← add_order_of_base generates] at leftBound rightBound
  exact nsmul_injOn_Iio_addOrderOf leftBound rightBound multiples

end SignedResponse.Edwards25519
