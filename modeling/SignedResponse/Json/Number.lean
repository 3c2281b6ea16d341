import SignedResponse.Text.ShortestDecimal

/-!
Numbers in JSON text: the literal, the number that it denotes, and numbers in diagnostics.

A literal with neither fraction nor exponent is an integer as long as 64 bits hold it, with or
without a sign. All others are read as floating point, rounded twice: the leading digits, as many
as 64 bits hold, are one number, and the power of ten is another.
-/

namespace SignedResponse

structure JsonLiteral where
  negative : Bool
  integer : List Char
  fraction : List Char := []
  exponent : Option (Bool × List Char) := none
deriving DecidableEq

namespace JsonLiteral

def scanDigits (chars : List Char) : Option (List Char × List Char) :=
  let digits := chars.takeWhile Char.isDigit
  if digits = [] then none else some (digits, chars.dropWhile Char.isDigit)

def scanInteger (chars : List Char) : Option (List Char × List Char) := do
  let (digits, rest) ← scanDigits chars
  if digits.head? = some '0' ∧ digits.length ≠ 1 then none else some (digits, rest)

def scanFraction : List Char → Option (List Char × List Char)
  | '.' :: rest => scanDigits rest
  | chars => some ([], chars)

def scanExponent : List Char → Option (Option (Bool × List Char) × List Char)
  | mark :: rest =>
      if mark = 'e' ∨ mark = 'E' then
        let (negative, unsigned) := match rest with
          | '+' :: digits => (false, digits)
          | '-' :: digits => (true, digits)
          | digits => (false, digits)
        (scanDigits unsigned).map fun (digits, rest) => (some (negative, digits), rest)
      else some (none, mark :: rest)
  | [] => some (none, [])

def scan (chars : List Char) : Option (JsonLiteral × List Char) := do
  let (negative, unsigned) := match chars with
    | '-' :: rest => (true, rest)
    | _ => (false, chars)
  let (integer, rest) ← scanInteger unsigned
  let (fraction, rest) ← scanFraction rest
  let (exponent, rest) ← scanExponent rest
  return (⟨negative, integer, fraction, exponent⟩, rest)

end JsonLiteral

inductive JsonNumber where
  | integer (value : Int)
  | float (value : Float)

namespace JsonNumber

/-- Appends digits to a number as long as 64 bits hold the result; also gives the digits left. -/
def accumulate (number : Nat) : List Char → Nat × List Char
  | [] => (number, [])
  | digit :: rest =>
      let next := number * 10 + (digit.toNat - 48)
      if next < UInt64.size then accumulate next rest else (number, digit :: rest)

def scale? (number : Float) (power : Int) : Option Float :=
  let tenTo (power : Nat) : Float := Float.ofScientific 1 false power
  if 308 < power then (if number == 0 then some number else none)
  else if 0 ≤ power then
    let product := number * tenTo power.toNat
    if product.isInf then none else some product
  else if -308 ≤ power then some (number / tenTo (-power).toNat)
  else if -616 ≤ power then some (number / tenTo 308 / tenTo (-power - 308).toNat)
  else some 0

/-- The largest exponent that is looked at; a number with a larger one is zero or too large. -/
def maxExponent : Nat := 2147483647

def magnitude? (literal : JsonLiteral) : Option Float :=
  let (leading, skipped) := accumulate 0 literal.integer
  let (significand, unread) := accumulate leading literal.fraction
  let power : Int := skipped.length - (literal.fraction.length - unread.length : Nat)
  let number := significand.toUInt64.toFloat
  match literal.exponent with
  | none => scale? number power
  | some (negative, digits) =>
      match Decimal.valueBelow? (maxExponent + 1) digits with
      | none => if significand ≠ 0 ∧ negative = false then none else some 0
      | some exponent => scale? number (if negative then power - exponent else power + exponent)

/-- What a literal denotes, unless it is too large. A negative zero is floating point. -/
def ofLiteral? (literal : JsonLiteral) : Option JsonNumber :=
  let isInteger := literal.fraction = [] ∧ literal.exponent = none
  let float := (magnitude? literal).map fun number =>
    JsonNumber.float (if literal.negative then -number else number)
  match Decimal.valueBelow? UInt64.size literal.integer with
  | some whole =>
      if isInteger ∧ literal.negative = false then some (.integer whole)
      else if isInteger ∧ 0 < whole ∧ whole ≤ UInt64.size / 2 then some (.integer (-whole))
      else float
  | none => float

/-! ## Numbers in diagnostics -/

def integerText (value : Int) : String :=
  if value < 0 then "-" ++ Decimal.text value.natAbs else Decimal.text value.natAbs

def powerText (power : Int) : List Char :=
  'e' :: (if power < 0 then '-' else '+') :: (Decimal.text power.natAbs).toList

/-- A decimal number in full when its point lies within or near its digits, and with a power of ten
otherwise. -/
def decimalText (digits : List Char) (exponent : Int) : List Char :=
  let length : Int := digits.length
  let point := length + exponent
  if 0 ≤ exponent ∧ point ≤ 16 then
    digits ++ List.replicate exponent.toNat '0' ++ ['.', '0']
  else if 0 < point ∧ point ≤ 16 then
    digits.take point.toNat ++ '.' :: digits.drop point.toNat
  else if -5 < point ∧ point ≤ 0 then
    '0' :: '.' :: List.replicate (-point).toNat '0' ++ digits
  else
    let fraction := if length = 1 then [] else '.' :: digits.drop 1
    digits.take 1 ++ fraction ++ powerText (point - 1)

example : decimalText ['1', '5'] (-1) = "1.5".toList := by decide

example : decimalText ['1'] 15 = "1000000000000000.0".toList := by decide

example : decimalText ['1'] 16 = "1e+16".toList := by decide

example : decimalText ['1', '2'] (-6) = "0.000012".toList := by decide

example : decimalText ['1', '2'] (-7) = "1.2e-6".toList := by decide

/-- A finite number with the fewest digits that read back. -/
def floatText (value : Float) : String :=
  let binary := ShortestDecimal.Binary.ofFloat value
  let sign := if value.toBits.toNat < UInt64.size / 2 then "" else "-"
  if binary.mantissa = 0 then sign ++ "0.0"
  else
    let decimal := ShortestDecimal.ofBinary binary
    sign ++ String.ofList (decimalText (Decimal.digits decimal.digits) decimal.exponent)

end JsonNumber

end SignedResponse
