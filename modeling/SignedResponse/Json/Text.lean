import SignedResponse.Text.Hex

/-!
Strings in JSON text, with their escapes.

A string is read whether or not its escapes make up a text: a `\u` escape may be half of a pair
that stands alone. Such a string has no text, but it does not break the document that it stands in.
-/

namespace SignedResponse.JsonText

/-! ## Writing -/

def escape (char : Char) : List Char :=
  if char = '"' then ['\\', '"']
  else if char = '\\' then ['\\', '\\']
  else if char = '\n' then ['\\', 'n']
  else if char = '\r' then ['\\', 'r']
  else if char = '\t' then ['\\', 't']
  else if char.toNat = 8 then ['\\', 'b']
  else if char.toNat = 12 then ['\\', 'f']
  else if char.toNat < 32 then ['\\', 'u', '0', '0'] ++ Hex.pair char.toNat
  else [char]

def write (chars : List Char) : List Char := '"' :: chars.flatMap escape ++ ['"']

def writeObject (members : List (String × List Char)) : List Char :=
  let fields := members.map fun member => write member.1.toList ++ ':' :: member.2
  '\x7b' :: (fields.intersperse [',']).flatten ++ ['\x7d']

/-! ## Reading -/

def unit? (a b c d : Char) : Option Nat := do
  return (((← Hex.value? a) * 16 + (← Hex.value? b)) * 16 + (← Hex.value? c)) * 16 +
    (← Hex.value? d)

def letter? (char : Char) : Option Char :=
  if char = '"' ∨ char = '\\' ∨ char = '/' then some char
  else if char = 'b' then some '\x08'
  else if char = 'f' then some '\x0c'
  else if char = 'n' then some '\n'
  else if char = 'r' then some '\r'
  else if char = 't' then some '\t'
  else none

/-- What has been read of a string: its characters so far, the last one first, and the first half
of a pair when that was read last. -/
structure Progress where
  chars : List Char := []
  half : Option Nat := none
  isText : Bool := true

namespace Progress

def char (progress : Progress) (char : Char) : Progress :=
  ⟨char :: progress.chars, none, progress.isText && progress.half.isNone⟩

/-- One more unit of sixteen bits: a first half, a second half, or a character. -/
def unit (progress : Progress) (unit : Nat) : Progress :=
  if 0xD800 ≤ unit ∧ unit ≤ 0xDBFF then
    ⟨progress.chars, some unit, progress.isText && progress.half.isNone⟩
  else if 0xDC00 ≤ unit ∧ unit ≤ 0xDFFF then
    match progress.half with
    | some half =>
        ⟨Char.ofNat (0x10000 + (half - 0xD800) * 0x400 + (unit - 0xDC00)) :: progress.chars, none,
          progress.isText⟩
    | none => { progress with isText := false }
  else progress.char (Char.ofNat unit)

def text? (progress : Progress) : Option String :=
  if progress.isText && progress.half.isNone then some (String.ofList progress.chars.reverse)
  else none

end Progress

/-- Reads up to the closing quotation mark. The outer option is the grammar, the inner one says
whether the escapes make up a text. -/
def read (progress : Progress) : List Char → Option (Option String × List Char)
  | [] => none
  | '"' :: rest => some (progress.text?, rest)
  | '\\' :: 'u' :: a :: b :: c :: d :: rest =>
      match unit? a b c d with
      | some unit => read (progress.unit unit) rest
      | none => none
  | '\\' :: mark :: rest =>
      match letter? mark with
      | some char => read (progress.char char) rest
      | none => none
  | char :: rest =>
      if char.toNat < 32 ∨ char = '\\' then none else read (progress.char char) rest

end SignedResponse.JsonText
