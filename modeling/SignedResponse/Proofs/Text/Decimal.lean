import Mathlib.Data.List.Induction
import SignedResponse.Proofs.Text.Blank
import SignedResponse.Text.Decimal

/-!
Numbers in decimal are read back as they were written, also with blanks around them, a plus sign or
zeros before them.

The written form is never empty, holds digits only, and belongs to one number.
-/

namespace SignedResponse

namespace Decimal

theorem is_digit_of_mem_digits {number : Nat} {char : Char} (member : char ∈ digits number) :
    char.isDigit = true :=
  Nat.isDigit_of_mem_toDigits (by decide) (by decide) member

theorem is_digit_of_mem_zeros_append {zeros number : Nat} {char : Char}
    (member : char ∈ List.replicate zeros '0' ++ digits number) : char.isDigit = true := by
  rcases List.mem_append.mp member with zero | digit
  · rw [List.eq_of_mem_replicate zero]
    decide
  · exact is_digit_of_mem_digits digit

theorem digits_ne_nil (number : Nat) : digits number ≠ [] := Nat.toDigits_ne_nil

theorem digits_injective {left right : Nat} (same : digits left = digits right) : left = right := by
  rw [← value_digits left, same, value_digits]

theorem to_list_text (number : Nat) : (text number).toList = digits number := String.toList_ofList

theorem read_of_unsigned {limit : Nat} {chars : List Char}
    (unsigned : ∀ rest, chars ≠ '+' :: rest) :
    read? limit chars =
      if chars ≠ [] ∧ chars.all Char.isDigit = true then valueBelow? limit chars else none := by
  cases chars with
  | nil => rfl
  | cons first rest =>
      have notPlus : first ≠ '+' := fun same => unsigned rest (by rw [same])
      simp only [read?]

/-- The written forms that are read as a number: its digits, with zeros and a plus sign before them
and blanks around it all as one likes. -/
def Spells (number : Nat) (chars : List Char) : Prop :=
  ∃ (before after sign : List Char) (zeros : Nat),
    (∀ char ∈ before, Blank.isBlank char = true) ∧ (∀ char ∈ after, Blank.isBlank char = true) ∧
      (sign = [] ∨ sign = ['+']) ∧
        chars = before ++ ((sign ++ (List.replicate zeros '0' ++ digits number)) ++ after)

theorem spells_digits (number : Nat) : Spells number (digits number) := by
  refine ⟨[], [], [], 0, by simp, by simp, Or.inl rfl, ?_⟩
  rw [List.append_nil]
  rfl

theorem value_zeros_append (zeros : Nat) (chars : List Char) :
    value (List.replicate zeros '0' ++ chars) = value chars := by
  rw [value, Nat.ofDigitChars_append, Nat.ofDigitChars_replicate_zero, Nat.mul_zero, value]

theorem read_of_sign {limit : Nat} {sign chars : List Char} (signed : sign = [] ∨ sign = ['+'])
    (nonempty : chars ≠ []) (allDigits : ∀ char ∈ chars, char.isDigit = true) :
    read? limit (sign ++ chars) = valueBelow? limit chars := by
  have accepted : chars ≠ [] ∧ chars.all Char.isDigit = true :=
    ⟨nonempty, List.all_eq_true.mpr allDigits⟩
  rcases signed with rfl | rfl
  · have unsigned : ∀ rest, chars ≠ '+' :: rest := by
      rintro rest rfl
      exact absurd (allDigits '+' List.mem_cons_self) (by decide)
    rw [List.nil_append, read_of_unsigned unsigned, if_pos accepted]
  · exact if_pos accepted

theorem read_trim_of_spells {limit number : Nat} {chars : List Char} (positive : 0 < limit)
    (spells : Spells number chars) :
    read? limit (Blank.trim chars) = if number < limit then some number else none := by
  obtain ⟨before, after, sign, zeros, blankBefore, blankAfter, signed, rfl⟩ := spells
  have allDigits : ∀ char ∈ List.replicate zeros '0' ++ digits number, char.isDigit = true :=
    fun _ member => is_digit_of_mem_zeros_append member
  have nonempty : List.replicate zeros '0' ++ digits number ≠ [] :=
    List.append_ne_nil_of_right_ne_nil _ (digits_ne_nil number)
  have clean : ∀ char ∈ sign ++ (List.replicate zeros '0' ++ digits number),
      Blank.isBlank char = false := by
    intro char member
    rcases List.mem_append.mp member with plus | digit
    · rcases signed with rfl | rfl
      · cases plus
      · rw [List.mem_singleton.mp plus]
        decide
    · exact Blank.is_blank_of_is_digit (allDigits char digit)
  rw [Blank.trim_of_surrounded blankBefore blankAfter clean,
    read_of_sign signed nonempty allDigits, value_below_eq_ite positive, value_zeros_append,
    value_digits]

theorem digits_of_digit {char : Char} (digit : char.isDigit = true) :
    digits (char.toNat - 48) = [char] := by
  have table : ∀ number < 58, 48 ≤ number → digits (number - 48) = [Char.ofNat number] := by decide
  have bounds := Char.isDigit_iff_toNat.mp digit
  have low : 48 ≤ char.toNat := bounds.1
  have high : char.toNat ≤ 57 := bounds.2
  rw [table char.toNat (by omega) low, Char.ofNat_toNat]

theorem value_concat (chars : List Char) (digit : Char) :
    value (chars ++ [digit]) = 10 * value chars + (digit.toNat - 48) := by
  rw [value, Nat.ofDigitChars_append, Nat.ofDigitChars_cons, Nat.ofDigitChars_nil]
  rfl

theorem exists_zeros_append {row : List Char} (nonempty : row ≠ [])
    (allDigits : ∀ char ∈ row, char.isDigit = true) :
    ∃ zeros, row = List.replicate zeros '0' ++ digits (value row) := by
  -- One more digit goes behind the written form of the others, unless that is a zero.
  induction row using List.reverseRec with
  | nil => exact absurd rfl nonempty
  | append_singleton front last induction =>
      have digit : last.isDigit = true := allDigits last (by simp)
      have small : last.toNat - 48 < 10 := by
        have high : last.toNat ≤ 57 := (Char.isDigit_iff_toNat.mp digit).2
        omega
      rw [value_concat]
      by_cases empty : front = []
      · subst empty
        exact ⟨0, (digits_of_digit digit).symm.trans (by simp [value])⟩
      · obtain ⟨zeros, front_eq⟩ :=
          induction empty fun char member => allDigits char (List.mem_append_left _ member)
        by_cases zero : value front = 0
        · refine ⟨zeros + 1, ?_⟩
          rw [zero] at front_eq ⊢
          rw [Nat.mul_zero, Nat.zero_add, digits_of_digit digit, front_eq, List.replicate_succ']
          rfl
        · refine ⟨zeros, ?_⟩
          have more : digits (10 * value front + (last.toNat - 48)) =
              digits (value front) ++ [last] := by
            rw [← digits_of_digit digit]
            exact (Nat.toDigits_append_toDigits (by decide) (Nat.pos_of_ne_zero zero) small).symm
          rw [more, ← List.append_assoc, ← front_eq]

theorem length_digits_value_le {row : List Char} (nonempty : row ≠ [])
    (allDigits : ∀ char ∈ row, char.isDigit = true) :
    (digits (value row)).length ≤ row.length := by
  obtain ⟨zeros, row_eq⟩ := exists_zeros_append nonempty allDigits
  have lengths := congrArg List.length row_eq
  rw [List.length_append] at lengths
  omega

theorem spells_iff {number : Nat} {chars : List Char} :
    Spells number chars ↔ ∃ before after sign row : List Char,
      (∀ char ∈ before, Blank.isBlank char = true) ∧ (∀ char ∈ after, Blank.isBlank char = true) ∧
        (sign = [] ∨ sign = ['+']) ∧ row ≠ [] ∧ (∀ char ∈ row, char.isDigit = true) ∧
          value row = number ∧ chars = before ++ ((sign ++ row) ++ after) := by
  constructor
  · rintro ⟨before, after, sign, zeros, blankBefore, blankAfter, signed, rfl⟩
    refine ⟨before, after, sign, _, blankBefore, blankAfter, signed,
      List.append_ne_nil_of_right_ne_nil _ (digits_ne_nil number),
      fun _ member => is_digit_of_mem_zeros_append member, ?_, rfl⟩
    rw [value_zeros_append, value_digits]
  · rintro ⟨before, after, sign, row, blankBefore, blankAfter, signed, nonempty, allDigits, rfl,
      rfl⟩
    obtain ⟨zeros, row_eq⟩ := exists_zeros_append nonempty allDigits
    refine ⟨before, after, sign, zeros, blankBefore, blankAfter, signed, ?_⟩
    rw [← row_eq]

theorem exists_row_of_read {limit number : Nat} {chars : List Char} (positive : 0 < limit)
    (read : read? limit chars = some number) :
    ∃ sign row : List Char, (sign = [] ∨ sign = ['+']) ∧ row ≠ [] ∧
      (∀ char ∈ row, char.isDigit = true) ∧ value row = number ∧ number < limit ∧
        chars = sign ++ row := by
  obtain ⟨sign, row, signed, same, unsigned⟩ : ∃ sign row : List Char,
      (sign = [] ∨ sign = ['+']) ∧ chars = sign ++ row ∧
        (if row ≠ [] ∧ row.all Char.isDigit = true then valueBelow? limit row else none) =
          some number := by
    by_cases plus : ∃ rest, chars = '+' :: rest
    · obtain ⟨rest, rfl⟩ := plus
      exact ⟨['+'], rest, Or.inr rfl, rfl, read⟩
    · rw [read_of_unsigned fun rest same => plus ⟨rest, same⟩] at read
      exact ⟨[], chars, Or.inl rfl, rfl, read⟩
  split_ifs at unsigned with accepted
  rw [value_below_eq_ite positive] at unsigned
  split_ifs at unsigned with below
  cases unsigned
  exact ⟨sign, row, signed, accepted.1, List.all_eq_true.mp accepted.2, rfl, below, same⟩

theorem read_trim_eq_some_iff {limit number : Nat} {chars : List Char} (positive : 0 < limit) :
    read? limit (Blank.trim chars) = some number ↔ Spells number chars ∧ number < limit := by
  constructor
  · intro read
    obtain ⟨sign, row, signed, nonempty, allDigits, same, below, trimmed⟩ :=
      exists_row_of_read positive read
    obtain ⟨before, after, blankBefore, blankAfter, whole⟩ := Blank.exists_trim chars
    refine ⟨spells_iff.mpr ⟨before, after, sign, row, blankBefore, blankAfter, signed, nonempty,
      allDigits, same, ?_⟩, below⟩
    rw [← trimmed]
    exact whole
  · rintro ⟨spells, below⟩
    rw [read_trim_of_spells positive spells, if_pos below]

end Decimal

end SignedResponse
