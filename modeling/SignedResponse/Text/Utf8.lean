/-!
Text as UTF-8 bytes, and bytes as text.

`decode?` refuses what is not UTF-8. `decodeLossy` is for messages only: it shows each
undecodable part as one replacement character.
-/

namespace SignedResponse.Utf8

def encode (text : String) : List UInt8 := text.toUTF8.data.toList

def decode? (bytes : List UInt8) : Option String := String.fromUTF8? ⟨bytes.toArray⟩

def replacement : Char := '\ufffd'

def isContinuation (byte : UInt8) : Bool := 0x80 ≤ byte && byte ≤ 0xBF

/-- The number of bytes that a character starting with `first` takes, and the range in which its
second byte must lie; `none` when no character starts so. -/
def leading? (first : UInt8) : Option (Nat × UInt8 × UInt8) :=
  if first ≤ 0x7F then some (1, 0, 0)
  else if 0xC2 ≤ first && first ≤ 0xDF then some (2, 0x80, 0xBF)
  else if first = 0xE0 then some (3, 0xA0, 0xBF)
  else if first = 0xED then some (3, 0x80, 0x9F)
  else if 0xE1 ≤ first && first ≤ 0xEF then some (3, 0x80, 0xBF)
  else if first = 0xF0 then some (4, 0x90, 0xBF)
  else if 0xF1 ≤ first && first ≤ 0xF3 then some (4, 0x80, 0xBF)
  else if first = 0xF4 then some (4, 0x80, 0x8F)
  else none

def continuations (first : UInt8) (rest : List UInt8) : Nat :=
  match leading? first, rest with
  | some (size, low, high), second :: others =>
      if 2 ≤ size && low ≤ second && second ≤ high then
        1 + ((others.take (size - 2)).takeWhile isContinuation).length
      else 0
  | _, _ => 0

def headChar? (first : UInt8) (rest : List UInt8) : Option Char :=
  let taken := first :: rest.take (continuations first rest)
  match (decode? taken).map String.toList with
  | some [char] => some char
  | _ => none

def lossyChars : Nat → List UInt8 → List Char
  | _, [] => []
  | 0, _ :: _ => []
  | fuel + 1, first :: rest =>
      (headChar? first rest).getD replacement ::
        lossyChars fuel (rest.drop (continuations first rest))

/-- Text for display: every longest undecodable part becomes one replacement character. -/
def decodeLossy (bytes : List UInt8) : String :=
  (decode? bytes).getD (String.ofList (lossyChars bytes.length bytes))

end SignedResponse.Utf8
