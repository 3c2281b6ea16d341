import SignedResponse.Text.LetterTable
import SignedResponse.Text.NumberTable
import SignedResponse.Text.Ranges

/-!
Letters and numbers of all scripts, of which those of ASCII are the first
(`is_letter_or_number_eq_is_alphanum`).
-/

namespace SignedResponse.Letter

def isLetter (char : Char) : Bool := Ranges.contains LetterTable.ranges char.toNat

def isNumber (char : Char) : Bool := Ranges.contains NumberTable.ranges char.toNat

def isLetterOrNumber (char : Char) : Bool := isLetter char || isNumber char

example : isLetter 'é' = true ∧ isLetter '½' = false ∧ isNumber '½' = true := by decide

theorem is_letter_or_number_eq_is_alphanum {char : Char} (ascii : char.toNat < 0x80) :
    isLetterOrNumber char = char.isAlphanum := by
  have table : ∀ code < 0x80,
      isLetterOrNumber (Char.ofNat code) = (Char.ofNat code).isAlphanum := by decide
  have entry := table char.toNat ascii
  rwa [Char.ofNat_toNat] at entry

end SignedResponse.Letter
