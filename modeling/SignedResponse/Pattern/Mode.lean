import SignedResponse.Text.Blank

/-!
The modes in which the parts of a pattern are read, and the flags that change them.

A pattern is a regular expression. It starts out being about characters, minding their case, and
with every blank counting.
-/

namespace SignedResponse.Pattern

structure Mode where
  ofCharacters : Bool := true
  ignoresCase : Bool := false
  spaced : Bool := false
deriving DecidableEq

abbrev Setting := Char × Bool

namespace Mode

/-- The mode with a flag set. The flags for lines and for greed have no influence on what may
stand in a pattern, and other letters are no flags. -/
def with? (mode : Mode) (setting : Setting) : Option Mode :=
  match setting.1 with
  | 'u' => some { mode with ofCharacters := setting.2 }
  | 'i' => some { mode with ignoresCase := setting.2 }
  | 'x' => some { mode with spaced := setting.2 }
  | 'm' | 's' | 'U' | 'R' => some mode
  | _ => none

/-- The mode after a list of flags, each of which may occur once. A dash among them, which is not
the last of them, switches those after it off. -/
def afterFlags? (mode : Mode) (flags : List Char) : Option Mode :=
  let on := flags.takeWhile (· ≠ '-')
  let off := (flags.drop on.length).drop 1
  if flags.getLast? = some '-' ∨ ¬ flags.Nodup then none
  else (on.map (·, true) ++ off.map (·, false)).foldlM with? mode

/-! ## Idle text -/

def dropIdle (inComment : Bool) : List Char → List Char
  | [] => []
  | char :: rest =>
      if inComment then dropIdle (char ≠ '\n') rest
      else if char = '#' then dropIdle true rest
      else if Blank.isBlank char then dropIdle false rest
      else char :: rest

def skip (mode : Mode) (text : List Char) : List Char :=
  if mode.spaced then dropIdle false text else text

/-- What a look past a sign sees. It looks over blanks and over one number sign, but not over the
comment that this one starts. -/
def peek (mode : Mode) (text : List Char) : Option Char :=
  if mode.spaced then
    match text.dropWhile Blank.isBlank with
    | '#' :: rest => (rest.dropWhile Blank.isBlank).head?
    | rest => rest.head?
  else text.head?

/-! ## What may stand in a pattern -/

/-- Whether a character may stand for itself. Without regard to case none may where the pattern is
about characters, since it knows no pairs of cases. Where it is about bytes, one byte alone has to
be ASCII. -/
def admits (mode : Mode) (char : Char) (asByte : Bool) : Bool :=
  if mode.ofCharacters then !mode.ignoresCase else char.toNat < 0x80 || !asByte

example : ({} : Mode).afterFlags? "ix-u".toList = some ⟨false, true, true⟩ := by decide

example : ({} : Mode).afterFlags? "i-i".toList = none := by decide

end Mode

end SignedResponse.Pattern
