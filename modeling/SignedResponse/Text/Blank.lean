import SignedResponse.Text.Ranges

/-!
Blanks: the characters with the Unicode property `White_Space`.

There are twenty-five of them. Only the blanks at the two ends of a text are ever removed.
-/

namespace SignedResponse.Blank

def ranges : List (Nat × Nat) :=
  [(0x9, 0xD), (0x20, 0x20), (0x85, 0x85), (0xA0, 0xA0), (0x1680, 0x1680), (0x2000, 0x200A),
    (0x2028, 0x2029), (0x202F, 0x202F), (0x205F, 0x205F), (0x3000, 0x3000)]

def isBlank (char : Char) : Bool := Ranges.contains ranges char.toNat

def trim (chars : List Char) : List Char :=
  ((chars.dropWhile isBlank).reverse.dropWhile isBlank).reverse

theorem is_blank_of_is_whitespace {char : Char} (blank : char.isWhitespace = true) :
    isBlank char = true := by
  simp only [Char.isWhitespace, Bool.or_eq_true, decide_eq_true_eq] at blank
  rcases blank with ((rfl | rfl) | rfl) | rfl <;> decide

example : (ranges.map fun range => range.2 - range.1 + 1).sum = 25 := by decide

end SignedResponse.Blank
