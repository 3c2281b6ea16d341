import Mathlib.Algebra.BigOperators.Associated
import Mathlib.FieldTheory.Finite.Basic
import Mathlib.Tactic.NormNum.Prime
import Mathlib.Tactic.ReduceModChar
import SignedResponse.Crypto.Edwards25519

/-!
The size of the field and the order of the base point are primes.

A number is prime when enough of what comes before it is factored into primes, and 2 has powers
modulo it as for a prime. The two chains below go down from the numbers in question to primes that
are found by trial division.
-/

namespace SignedResponse

/-- A power of 2 that is not 1 modulo any prime divisor makes every such divisor large. -/
theorem dvd_pred_of_units {number factor cofactor divisor : ℕ} [divisorPrime : Fact divisor.Prime]
    (several : 1 < number) (whole : number = factor * cofactor + 1) (divides : divisor ∣ number)
    (fermat : (2 : ZMod number) ^ (number - 1) = 1)
    (unit : ∀ q : ℕ, q.Prime → q ∣ factor → IsUnit ((2 : ZMod number) ^ ((number - 1) / q) - 1)) :
    factor ∣ divisor - 1 := by
  let project := ZMod.castHom divides (ZMod divisor)
  have power : (2 : ZMod divisor) ^ (number - 1) = 1 := by
    have image := congrArg project fermat
    rwa [map_pow, map_ofNat, map_one] at image
  obtain ⟨rest, split⟩ := orderOf_dvd_of_pow_eq_one power
  -- What is left of the exponent beside the order of 2 has no prime in common with the factor.
  have coprime : Nat.Coprime factor rest := by
    refine Nat.coprime_of_dvd fun q prime divides inRest => ?_
    obtain ⟨others, rfl⟩ := inRest
    have quotient : (number - 1) / q = orderOf (2 : ZMod divisor) * others := by
      rw [split, mul_left_comm, Nat.mul_div_cancel_left _ prime.pos]
    have image := (unit q prime divides).map project
    rw [map_sub, map_pow, map_ofNat, map_one, quotient, pow_mul, pow_orderOf_eq_one, one_pow,
      sub_self] at image
    exact not_isUnit_zero image
  have inOrder : factor ∣ orderOf (2 : ZMod divisor) := by
    apply coprime.dvd_of_dvd_mul_right
    rw [← split, whole, Nat.add_sub_cancel]
    exact Nat.dvd_mul_right factor cofactor
  have nonzero : (2 : ZMod divisor) ≠ 0 := by
    intro zero
    rw [zero, zero_pow (Nat.sub_ne_zero_of_lt several)] at power
    exact zero_ne_one power
  exact inOrder.trans (ZMod.orderOf_dvd_card_sub_one nonzero)

/-- A number is prime when what comes before it has primes whose product is at least its root, and
2 has powers modulo the number as for a prime. Each prime comes with the inverse that shows its
power to be none that is 1 anywhere. -/
theorem prime_of_factors {number : ℕ} (entries : List (ℕ × ZMod number)) (cofactor : ℕ)
    (factors : ∀ entry ∈ entries,
      entry.1.Prime ∧ ((2 : ZMod number) ^ ((number - 1) / entry.1) - 1) * entry.2 = 1)
    (whole : number = (entries.map Prod.fst).prod * cofactor + 1)
    (large : number ≤ (entries.map Prod.fst).prod ^ 2) (several : 1 < number)
    (fermat : (2 : ZMod number) ^ (number - 1) = 1) : number.Prime := by
  by_contra composite
  have least := Nat.minFac_prime several.ne'
  have : Fact number.minFac.Prime := ⟨least⟩
  have divides : (entries.map Prod.fst).prod ∣ number.minFac - 1 := by
    refine dvd_pred_of_units several whole (Nat.minFac_dvd number) fermat fun q prime divides => ?_
    obtain ⟨factor, listed, found⟩ := prime.prime.dvd_prod_iff.mp divides
    obtain ⟨entry, member, rfl⟩ := List.mem_map.mp listed
    obtain ⟨entryPrime, inverse⟩ := factors entry member
    rw [(Nat.prime_dvd_prime_iff_eq prime entryPrime).mp found]
    exact .of_mul_eq_one entry.2 inverse
  have bound : (entries.map Prod.fst).prod < number.minFac := by
    have atMost := Nat.le_of_dvd (Nat.sub_pos_of_lt least.one_lt) divides
    have atLeast := least.one_lt
    omega
  have square := Nat.minFac_sq_le_self (Nat.zero_lt_of_lt several) composite
  exact absurd (large.trans_lt (Nat.pow_lt_pow_left bound two_ne_zero)) (Nat.not_lt.mpr square)

section Order

theorem prime_order_part₁ : Nat.Prime 1257559732178653 := by
  apply prime_of_factors [(1224481, 790900187493841), (531581, 212927577457398)] 1932
  case factors =>
    exact List.forall_mem_cons.mpr ⟨⟨by norm_num, by reduce_mod_char⟩,
      List.forall_mem_singleton.mpr ⟨by norm_num, by reduce_mod_char⟩⟩
  case fermat => reduce_mod_char
  all_goals norm_num

theorem prime_order_part₂ : Nat.Prime 4434155615661930479 := by
  apply prime_of_factors [(1257559732178653, 1010501025739283171)] 3526
  case factors => exact List.forall_mem_singleton.mpr ⟨prime_order_part₁, by reduce_mod_char⟩
  case fermat => reduce_mod_char
  all_goals norm_num

theorem prime_order_part₃ : Nat.Prime 172054593956031949258510691 := by
  apply prime_of_factors [(4434155615661930479, 154275350521713489305385904)] 38802110
  case factors => exact List.forall_mem_singleton.mpr ⟨prime_order_part₂, by reduce_mod_char⟩
  case fermat => reduce_mod_char
  all_goals norm_num

theorem prime_order_part₄ : Nat.Prime 19757330305831588566944191468367130476339 := by
  apply prime_of_factors
    [(172054593956031949258510691, 16371654433361644093796961727196399386194)]
    114831751082918
  case factors => exact List.forall_mem_singleton.mpr ⟨prime_order_part₃, by reduce_mod_char⟩
  case fermat => reduce_mod_char
  all_goals norm_num

theorem prime_order_part₅ : Nat.Prime 276602624281642239937218680557139826668747 := by
  apply prime_of_factors
    [(19757330305831588566944191468367130476339, 94074944912245044309966580483695483989395)]
    14
  case factors => exact List.forall_mem_singleton.mpr ⟨prime_order_part₄, by reduce_mod_char⟩
  case fermat => reduce_mod_char
  all_goals norm_num

theorem Edwards25519.prime_order : Nat.Prime order := by
  unfold order
  apply prime_of_factors
    [(276602624281642239937218680557139826668747,
      2233364593245673852815932892735013076939656528578070433728021143254617821614)]
    26163907866482859529727157400808004
  case factors => exact List.forall_mem_singleton.mpr ⟨prime_order_part₅, by reduce_mod_char⟩
  case fermat => reduce_mod_char
  all_goals norm_num

end Order

section Field

theorem prime_field_part₁ : Nat.Prime 1919519569386763 := by
  apply prime_of_factors [(8574133, 1290547218147893), (127, 1870148777187772)] 1762782
  case factors =>
    exact List.forall_mem_cons.mpr ⟨⟨by norm_num, by reduce_mod_char⟩,
      List.forall_mem_singleton.mpr ⟨by norm_num, by reduce_mod_char⟩⟩
  case fermat => reduce_mod_char
  all_goals norm_num

theorem prime_field_part₂ : Nat.Prime 75445702479781427272750846543864801 := by
  apply prime_of_factors
    [(1919519569386763, 74602835786463724888147869570305675),
     (75707, 8986369574106813140303762220009459)]
    519165620632800
  case factors =>
    exact List.forall_mem_cons.mpr ⟨⟨prime_field_part₁, by reduce_mod_char⟩,
      List.forall_mem_singleton.mpr ⟨by norm_num, by reduce_mod_char⟩⟩
  case fermat => reduce_mod_char
  all_goals norm_num

theorem prime_field_part₃ :
    Nat.Prime 74058212732561358302231226437062788676166966415465897661863160754340907 := by
  apply prime_of_factors
    [(75445702479781427272750846543864801,
      70463328703800545008217672123162676565183935400628861884889913886334520),
     (57467, 14824715564668784131283553449357537219684777824927388968274202049879618)]
    17081271449018405195068471673118
  case factors =>
    exact List.forall_mem_cons.mpr ⟨⟨prime_field_part₂, by reduce_mod_char⟩,
      List.forall_mem_singleton.mpr ⟨by norm_num, by reduce_mod_char⟩⟩
  case fermat => reduce_mod_char
  all_goals norm_num

theorem Field25519.prime_prime : Nat.Prime prime := by
  unfold prime
  apply prime_of_factors
    [(74058212732561358302231226437062788676166966415465897661863160754340907,
      55540832096118778044507775605005710249233119951144946814680141076505643269084)]
    781764
  case factors => exact List.forall_mem_singleton.mpr ⟨prime_field_part₃, by reduce_mod_char⟩
  case fermat => reduce_mod_char
  all_goals norm_num

end Field

end SignedResponse
