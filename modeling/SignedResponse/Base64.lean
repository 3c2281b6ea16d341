/-!
Base64 with the standard alphabet, in its canonical form only.

Padding is required, the bits that padding leaves over are zero, and nothing else may stand in
the text. So a byte string has one written form and `decode` accepts no other.
-/

namespace SignedResponse.Base64

def symbol (value : Nat) : Char :=
  if value < 26 then Char.ofNat (65 + value)
  else if value < 52 then Char.ofNat (71 + value)
  else if value < 62 then Char.ofNat (value - 4)
  else if value = 62 then '+'
  else '/'

def value? (char : Char) : Option Nat :=
  if 65 ≤ char.toNat ∧ char.toNat ≤ 90 then some (char.toNat - 65)
  else if 97 ≤ char.toNat ∧ char.toNat ≤ 122 then some (char.toNat - 71)
  else if 48 ≤ char.toNat ∧ char.toNat ≤ 57 then some (char.toNat + 4)
  else if char = '+' then some 62
  else if char = '/' then some 63
  else none

/-- Three bytes become four symbols; a rest of one or two bytes is filled up with `=`. -/
def encode : List UInt8 → List Char
  | [] => []
  | [a] => [symbol (a.toNat / 4), symbol (a.toNat % 4 * 16), '=', '=']
  | [a, b] =>
      [symbol (a.toNat / 4), symbol (a.toNat % 4 * 16 + b.toNat / 16),
        symbol (b.toNat % 16 * 4), '=']
  | a :: b :: c :: rest =>
      symbol (a.toNat / 4) :: symbol (a.toNat % 4 * 16 + b.toNat / 16) ::
        symbol (b.toNat % 16 * 4 + c.toNat / 64) :: symbol (c.toNat % 64) :: encode rest

def decodeLast (p q r : Char) : Option (List UInt8) :=
  match value? p, value? q with
  | some v, some w =>
      if r = '=' then
        if w % 16 = 0 then some [UInt8.ofNat (v * 4 + w / 16)] else none
      else
        match value? r with
        | some x =>
            if x % 4 = 0 then
              some [UInt8.ofNat (v * 4 + w / 16), UInt8.ofNat (w % 16 * 16 + x / 4)]
            else none
        | none => none
  | _, _ => none

def decodeGroup (p q r s : Char) : Option (List UInt8) :=
  match value? p, value? q, value? r, value? s with
  | some v, some w, some x, some y =>
      some [UInt8.ofNat (v * 4 + w / 16), UInt8.ofNat (w % 16 * 16 + x / 4),
        UInt8.ofNat (x % 4 * 64 + y)]
  | _, _, _, _ => none

def decode : List Char → Option (List UInt8)
  | [] => some []
  | p :: q :: r :: s :: rest =>
      if s = '=' then
        if rest = [] then decodeLast p q r else none
      else
        match decodeGroup p q r s, decode rest with
        | some group, some others => some (group ++ others)
        | _, _ => none
  | _ => none

def encodeText (bytes : List UInt8) : String := String.ofList (encode bytes)

def decodeText (text : String) : Option (List UInt8) := decode text.toList

end SignedResponse.Base64
