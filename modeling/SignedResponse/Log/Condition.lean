import SignedResponse.Pattern.Check

/-!
Conditions on the fields that an event or a span has, as directives of a log filter state them.

A condition is written `field`, for any value, or `field=value`. A value that is no number is a
pattern, and a condition can only be read if the pattern can be used.
-/

namespace SignedResponse

structure LogCondition where
  field : String
  value : Option String
deriving DecidableEq

namespace LogCondition

def unsigned : List Char → List Char
  | '+' :: rest | '-' :: rest => rest
  | text => text

/-- Whether a text is digits with at most one point among them or at an end, and after a letter an
exponent. -/
def isDecimal (text : List Char) : Bool :=
  let whole := text.takeWhile Char.isDigit
  let (places, rest) := match text.drop whole.length with
    | '.' :: rest => rest.span Char.isDigit
    | rest => ([], rest)
  whole ++ places ≠ [] &&
  match rest with
  | [] => true
  | mark :: exponent =>
      mark.toLower = 'e' && unsigned exponent ≠ [] && (unsigned exponent).all Char.isDigit

/-- Whether a text is a number, which may be infinite or undefined, with a sign or without. -/
def isNumber (text : List Char) : Bool :=
  let name := String.ofList ((unsigned text).map Char.toLower)
  isDecimal (unsigned text) || name = "inf" || name = "infinity" || name = "nan"

/-- A condition from its text. What follows a second equals sign is left out. -/
def read (text : String) : Except Pattern.Fault LogCondition :=
  match text.splitOn "=" with
  | field :: value :: _ =>
      match if isNumber value.toList then none else Pattern.fault? value.toList with
      | some fault => .error fault
      | none => .ok ⟨field, some value⟩
  | _ => .ok ⟨text, none⟩

example : isNumber "+.5e-3".toList = true ∧ isNumber "-Inf".toList = true ∧
    isNumber "+.".toList = false := by decide

end LogCondition

end SignedResponse
