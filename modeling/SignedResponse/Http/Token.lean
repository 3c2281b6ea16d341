/-!
Tokens, the words that HTTP methods and header names are made of.

A token in lower case is a token again (`Token.lower`), so lower case can be asked of a token once
and for all.
-/

namespace SignedResponse

/-- Letters, digits and fifteen marks, all of them ASCII. -/
def Token.isTokenChar (char : Char) : Bool :=
  char.isAlphanum || "!#$%&'*+-.^_\x60|~".toList.contains char

structure Token where
  chars : List Char
  nonempty : chars ≠ []
  legal : chars.all Token.isTokenChar = true
deriving DecidableEq

namespace Token

def ofText? (text : String) : Option Token :=
  if valid : text.toList ≠ [] ∧ text.toList.all isTokenChar = true then
    some ⟨text.toList, valid.1, valid.2⟩
  else none

def text (token : Token) : String := String.ofList token.chars

theorem to_lower_cases (char : Char) : char.toLower = char ∨ char.toLower.isLower = true := by
  unfold Char.toLower
  split
  · rename_i upper
    right
    have low : 65 ≤ char.val.toNat := upper.1
    have high : char.val.toNat ≤ 90 := upper.2
    have step : ('a'.val - 'A'.val).toNat = 32 := by decide
    have shifted : (char.val + ('a'.val - 'A'.val)).toNat = char.val.toNat + 32 := by
      rw [UInt32.toNat_add, step]
      exact Nat.mod_eq_of_lt (by omega)
    have above : 97 ≤ (char.val + ('a'.val - 'A'.val)).toNat := by omega
    have below : (char.val + ('a'.val - 'A'.val)).toNat ≤ 122 := by omega
    exact Bool.and_eq_true_iff.mpr ⟨decide_eq_true above, decide_eq_true below⟩
  · exact Or.inl rfl

theorem to_lower_eq_of_is_lower {char : Char} (small : char.isLower = true) :
    char.toLower = char := by
  unfold Char.toLower
  split
  · rename_i upper
    have low : 97 ≤ char.val.toNat := of_decide_eq_true (Bool.and_eq_true_iff.mp small).1
    have high : char.val.toNat ≤ 90 := upper.2
    omega
  · rfl

theorem to_lower_to_lower (char : Char) : char.toLower.toLower = char.toLower := by
  rcases to_lower_cases char with same | small
  · rw [same]
    exact same
  · exact to_lower_eq_of_is_lower small

theorem is_token_char_to_lower {char : Char} (legal : isTokenChar char = true) :
    isTokenChar char.toLower = true := by
  rcases to_lower_cases char with same | small
  · rw [same]
    exact legal
  · have alpha : char.toLower.isAlpha = true := Bool.or_eq_true_iff.mpr (Or.inr small)
    have alphanum : char.toLower.isAlphanum = true := Bool.or_eq_true_iff.mpr (Or.inl alpha)
    exact Bool.or_eq_true_iff.mpr (Or.inl alphanum)

def lower (token : Token) : Token where
  chars := token.chars.map Char.toLower
  nonempty := by
    have nonempty := token.nonempty
    simpa only [ne_eq, List.map_eq_nil_iff] using nonempty
  legal := by
    have legal := token.legal
    simp only [List.all_eq_true, List.mem_map] at legal ⊢
    rintro char ⟨given, found, rfl⟩
    exact is_token_char_to_lower (legal given found)

theorem lower_lower (token : Token) : token.lower.lower = token.lower := by
  simp only [lower, List.map_map, Function.comp_def, to_lower_to_lower]

end Token

end SignedResponse
