import SignedResponse.Json.Fault

/-!
Reading values of a known shape out of a document.

A record may be given as an object or, by the order of its fields, as a sequence. An object may
have further members. A field may be left out when it has a default, but not given twice; in a
sequence only the last fields can be left out.
-/

namespace SignedResponse

namespace JsonValue

def readText : JsonValue → Except JsonFault String
  | .string (some text) => .ok text
  | value => .error (value.mismatch "a string")

def readOptionalText : JsonValue → Except JsonFault (Option String)
  | .null => .ok none
  | value => value.readText.map some

/-- An integer from zero to below the limit. -/
def readNatural (limit : Nat) (expected : String) : JsonValue → Except JsonFault Nat
  | .number literal =>
      match JsonNumber.ofLiteral? literal with
      | some (.integer value) =>
          if 0 ≤ value ∧ value < limit then .ok value.toNat else .error (.outOfRange value expected)
      | some (.float value) => .error (.wrongType (.number (.float value)) expected)
      | none => .error .malformed
  | value => .error (value.mismatch expected)

def readTexts : JsonValue → Except JsonFault (List (String × String))
  | .object members closed => do
      let texts ← members.mapM fun
        | (some key, value) => return (key, ← value.readText)
        | (none, _) => throw .malformed
      if closed then return texts else throw .malformed
  | value => .error (value.mismatch "a map")

def choose {α : Type} (choices : List (String × α)) (name : String) : Except JsonFault α :=
  match choices.find? fun choice => choice.1 = name with
  | some choice => .ok choice.2
  | none => .error (.unknownVariant name (choices.map (·.1)))

/-- One of several names, or an object with that name and null as its only member. -/
def readChoice {α : Type} (choices : List (String × α)) : JsonValue → Except JsonFault α
  | .string (some name) => choose choices name
  | .object ((some name, value) :: members) closed => do
      let choice ← choose choices name
      match value with
      | .null => if members.isEmpty && closed then return choice else throw .malformed
      | value => throw (value.mismatch "unit")
  | _ => .error .malformed

end JsonValue

structure JsonField (α : Type) where
  name : String
  required : Bool := false
  set : JsonValue → α → Except JsonFault α

/-- How a record is read: what it is called, its fields in order, and the record that has every
field at its default. -/
structure JsonShape (α : Type) where
  title : String
  fields : List (JsonField α)
  defaults : α

namespace JsonShape

variable {α : Type} (shape : JsonShape α)

def expectedSequence : String :=
  "struct " ++ shape.title ++ " with " ++ Decimal.text shape.fields.length ++ " elements"

/-- Reads the members in order; `seen` are the names of the fields so far. -/
def readMembers (seen : List String) (record : α) :
    List (Option String × JsonValue) → Except JsonFault (List String × α)
  | [] => .ok (seen, record)
  | (none, _) :: _ => .error .malformed
  | (some key, value) :: rest =>
      match shape.fields.find? fun field => field.name = key with
      | none => readMembers seen record rest
      | some field => do
          if key ∈ seen then throw (.duplicateField key)
          readMembers (key :: seen) (← field.set value record) rest

/-- Reads the items in order into the fields that are left; `length` is the number of items so
far. -/
def readItems (closed : Bool) (length : Nat) (record : α) :
    List (JsonField α) → List JsonValue → Except JsonFault α
  | [], [] => if closed then .ok record else .error .malformed
  | [], _ :: _ => .error .malformed
  | field :: fields, [] =>
      if closed = false then .error .malformed
      else if field.required then .error (.tooShort length shape.expectedSequence)
      else readItems closed (length + 1) record fields []
  | field :: fields, item :: items => do
      readItems closed (length + 1) (← field.set item record) fields items

def read : JsonValue → Except JsonFault α
  | .object members closed => do
      let (seen, record) ← shape.readMembers [] shape.defaults members
      if closed = false then throw .malformed
      match shape.fields.find? fun field => field.required && !seen.contains field.name with
      | some field => throw (.missingField field.name)
      | none => return record
  | .array items closed => shape.readItems closed 0 shape.defaults shape.fields items
  | value => .error (value.mismatch ("struct " ++ shape.title))

end JsonShape

def JsonValue.readWhole {α : Type} (read : JsonValue → Except JsonFault α) (text : String) :
    Except JsonFault α := do
  let (value, complete) := JsonValue.readDocument text.toList
  let result ← read value
  if complete then return result else throw .malformed

end SignedResponse
