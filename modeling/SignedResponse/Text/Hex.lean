/-!
Hexadecimal digits, written in lower case and read in any.
-/

namespace SignedResponse.Hex

def digits (number : Nat) : List Char := Nat.toDigits 16 number

def pair (number : Nat) : List Char := [Nat.digitChar (number / 16), Nat.digitChar (number % 16)]

def value? (char : Char) : Option Nat :=
  if '0' ≤ char ∧ char ≤ '9' then some (char.toNat - 48)
  else if 'a' ≤ char ∧ char ≤ 'f' then some (char.toNat - 87)
  else if 'A' ≤ char ∧ char ≤ 'F' then some (char.toNat - 55)
  else none

theorem value_digit_char : ∀ number < 16, value? (Nat.digitChar number) = some number := by
  decide

end SignedResponse.Hex
