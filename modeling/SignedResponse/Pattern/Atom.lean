import SignedResponse.Pattern.Mode
import SignedResponse.Text.Hex

/-!
The smallest parts of a pattern, which are one character or one escape long.

An escape names a character by a letter or by its number, stands for a set of characters or for a
place in the text, or takes the meaning from a sign.
-/

namespace SignedResponse.Pattern

inductive Atom where
  /-- A character that stands for itself. Only two digits number it as a byte. -/
  | literal (char : Char) (asByte : Bool)
  | shorthand
  | anchor
  | wordEdge
deriving DecidableEq

namespace Atom

def readNumber (mode : Mode) (number : Nat) : Nat → List Char → Option (Nat × List Char)
  | 0, text => some (number, text)
  | count + 1, text =>
      match mode.skip text with
      | [] => none
      | char :: rest =>
          match Hex.value? char with
          | some digit => readNumber mode (16 * number + digit) count rest
          | none => none

def digitCount? (letter : Char) : Option Nat :=
  match letter with
  | 'x' => some 2
  | 'u' => some 4
  | 'U' => some 8
  | _ => none

/-- What a character stands for after a backslash. Sets of characters beyond ASCII are not
known. -/
def escaped? (mode : Mode) (char : Char) : Option Atom :=
  match char with
  | 'a' => some (literal '\x07' false)
  | 't' => some (literal '\t' false)
  | 'n' => some (literal '\n' false)
  | 'v' => some (literal '\x0b' false)
  | 'f' => some (literal '\x0c' false)
  | 'r' => some (literal '\r' false)
  | 'd' | 's' | 'w' => if mode.ofCharacters then none else some shorthand
  | 'A' | 'z' => some anchor
  | 'b' | 'B' | '<' | '>' => some wordEdge
  | _ => if char.toNat < 0x80 ∧ ¬ char.isAlphanum then some (literal char false) else none

def readEscape (mode : Mode) : List Char → Option (Atom × List Char)
  | [] => none
  | char :: rest =>
      match digitCount? char with
      | none => (escaped? mode char).map (·, rest)
      | some count =>
          match readNumber mode 0 count rest with
          | none => none
          | some (number, rest) =>
              if number.isValidChar then some (literal (Char.ofNat number) (count = 2), rest)
              else none

def read (mode : Mode) : List Char → Option (Atom × List Char)
  | [] => none
  | '\\' :: rest => readEscape mode rest
  | char :: rest => some (literal char false, rest)

example : read {} "\\u00e9b".toList = some (literal 'é' false, ['b']) := by decide

example : read {} "\\d".toList = none := by decide

end Atom

end SignedResponse.Pattern
