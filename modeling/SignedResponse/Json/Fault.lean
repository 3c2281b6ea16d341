import SignedResponse.Json.Value
import SignedResponse.Text.Quoted

/-!
Why a document is not what it should be, and how that is said.
-/

namespace SignedResponse

inductive JsonFound where
  | null
  | bool (value : Bool)
  | number (value : JsonNumber)
  | text (value : String)
  | sequence
  | map

namespace JsonFound

def describe : JsonFound → String
  | .null => "null"
  | .bool value => "boolean \x60" ++ (if value then "true" else "false") ++ "\x60"
  | .number (.integer value) => "integer \x60" ++ JsonNumber.integerText value ++ "\x60"
  | .number (.float value) => "floating point \x60" ++ JsonNumber.floatText value ++ "\x60"
  | .text value => "string " ++ Quoted.quote value
  | .sequence => "sequence"
  | .map => "map"

end JsonFound

inductive JsonFault where
  /-- The document is no JSON, or not of a form that could be right. -/
  | malformed
  | missingField (name : String)
  | duplicateField (name : String)
  | unknownVariant (text : String) (expected : List String)
  | wrongType (found : JsonFound) (expected : String)
  | outOfRange (value : Int) (expected : String)
  | tooShort (length : Nat) (expected : String)

namespace JsonFault

/-- What is wrong with the data. A malformed document has none. -/
def message : JsonFault → String
  | .malformed => ""
  | .missingField name => "missing field \x60" ++ name ++ "\x60"
  | .duplicateField name => "duplicate field \x60" ++ name ++ "\x60"
  | .unknownVariant text expected =>
      "unknown variant \x60" ++ text ++ "\x60, expected one of " ++
        String.intercalate ", " (expected.map fun name => "\x60" ++ name ++ "\x60")
  | .wrongType found expected =>
      "invalid type: " ++ found.describe ++ ", expected " ++ expected
  | .outOfRange value expected =>
      "invalid value: integer \x60" ++ JsonNumber.integerText value ++ "\x60, expected " ++ expected
  | .tooShort length expected =>
      "invalid length " ++ Decimal.text length ++ ", expected " ++ expected

end JsonFault

namespace JsonValue

def mismatch (expected : String) : JsonValue → JsonFault
  | .null => .wrongType .null expected
  | .bool value => .wrongType (.bool value) expected
  | .number literal =>
      match JsonNumber.ofLiteral? literal with
      | some denoted => .wrongType (.number denoted) expected
      | none => .malformed
  | .string (some text) => .wrongType (.text text) expected
  | .array _ _ => .wrongType .sequence expected
  | .object _ _ => .wrongType .map expected
  | .string none | .broken => .malformed

end JsonValue

end SignedResponse
