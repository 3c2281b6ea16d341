/-!
Natural numbers in decimal.

`digits` writes the shortest form. `read?` takes more forms than that: a plus sign and leading
zeros are allowed, and what reaches the stated limit is refused.
-/

namespace SignedResponse.Decimal

def digits (number : Nat) : List Char := Nat.toDigits 10 number

def text (number : Nat) : String := String.ofList (digits number)

def value (chars : List Char) : Nat := Nat.ofDigitChars 10 chars 0

/-- The number that a list of digits denotes, if it is below the limit. Digits after the one that
decides this are not looked at. -/
def valueBelow? (limit : Nat) (chars : List Char) : Option Nat :=
  chars.foldlM (fun number digit =>
    let next := 10 * number + (digit.toNat - '0'.toNat)
    if next < limit then some next else none) 0

def padded (width number : Nat) : String :=
  String.ofList (List.replicate (width - (digits number).length) '0' ++ digits number)

/-- An optional plus sign and at least one ASCII digit, for a number below the limit. -/
def read? (limit : Nat) (chars : List Char) : Option Nat :=
  let unsigned := match chars with
    | '+' :: rest => rest
    | _ => chars
  if unsigned ≠ [] ∧ unsigned.all Char.isDigit = true then valueBelow? limit unsigned else none

theorem value_digits (number : Nat) : value (digits number) = number := by
  simp [value, digits, Nat.ofDigitChars_ten_toDigits]

theorem le_of_digit_chars (chars : List Char) (number : Nat) :
    number ≤ Nat.ofDigitChars 10 chars number := by
  induction chars generalizing number with
  | nil => simp
  | cons digit rest ih =>
      rw [Nat.ofDigitChars_cons]
      exact Nat.le_trans (by omega) (ih _)

/-- Stopping early changes nothing, since further digits do not make a number smaller. -/
theorem value_below_eq_ite {limit : Nat} (positive : 0 < limit) (chars : List Char) :
    valueBelow? limit chars = if value chars < limit then some (value chars) else none := by
  suffices ∀ number, number < limit →
      chars.foldlM (fun number digit =>
        let next := 10 * number + (digit.toNat - '0'.toNat)
        if next < limit then some next else none) number =
      if Nat.ofDigitChars 10 chars number < limit then some (Nat.ofDigitChars 10 chars number)
      else none from this 0 positive
  induction chars with
  | nil => intro number below; simp [below]
  | cons digit rest ih =>
      intro number below
      rw [List.foldlM_cons, Nat.ofDigitChars_cons]
      by_cases next : 10 * number + (digit.toNat - '0'.toNat) < limit
      · simp only [next, if_true]
        exact ih _ next
      · have := le_of_digit_chars rest (10 * number + (digit.toNat - '0'.toNat))
        simp only [next, if_false]
        rw [if_neg (by omega)]
        rfl

end SignedResponse.Decimal
