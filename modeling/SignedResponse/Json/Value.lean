import SignedResponse.Json.Number
import SignedResponse.Json.Text

/-!
JSON text as a tree, as far as it is JSON.

Where the text stops being JSON the tree has a `broken` node and nothing after it. So the tree is
read in the order of the text, and of two faults the first one is found first.
-/

namespace SignedResponse

inductive JsonValue where
  | null
  | bool (value : Bool)
  | number (literal : JsonLiteral)
  /-- A string; it has no text when half of a pair stands alone in it. -/
  | string (text : Option String)
  | array (items : List JsonValue) (closed : Bool)
  | object (members : List (Option String × JsonValue)) (closed : Bool)
  | broken

namespace JsonValue

def isBlank (char : Char) : Bool := char = ' ' || char = '\t' || char = '\n' || char = '\r'

def skipBlanks (chars : List Char) : List Char := chars.dropWhile isBlank

def readName (chars : List Char) : JsonValue × Option (List Char) :=
  if "null".toList.isPrefixOf chars then (.null, some (chars.drop 4))
  else if "true".toList.isPrefixOf chars then (.bool true, some (chars.drop 4))
  else if "false".toList.isPrefixOf chars then (.bool false, some (chars.drop 5))
  else (.broken, none)

def readScalar (chars : List Char) : JsonValue × Option (List Char) :=
  match JsonLiteral.scan chars with
  | some (literal, rest) => (.number literal, some rest)
  | none => readName chars

mutual

/-- The value at the head of the text, and the text after it unless the value is broken. -/
def readValue : Nat → List Char → JsonValue × Option (List Char)
  | 0, _ => (.broken, none)
  | fuel + 1, chars =>
      match skipBlanks chars with
      | '"' :: rest =>
          match JsonText.read {} rest with
          | some (text, rest) => (.string text, some rest)
          | none => (.broken, none)
      | '[' :: rest =>
          match skipBlanks rest with
          | ']' :: rest => (.array [] true, some rest)
          | rest =>
              let (items, rest) := readItems fuel rest
              (.array items rest.isSome, rest)
      | '\x7b' :: rest =>
          match skipBlanks rest with
          | '\x7d' :: rest => (.object [] true, some rest)
          | rest =>
              let (members, rest) := readMembers fuel rest
              (.object members rest.isSome, rest)
      | chars => readScalar chars

def readItems : Nat → List Char → List JsonValue × Option (List Char)
  | 0, _ => ([], none)
  | fuel + 1, chars =>
      match readValue fuel chars with
      | (item, none) => ([item], none)
      | (item, some rest) =>
          match skipBlanks rest with
          | ',' :: rest =>
              let (items, rest) := readItems fuel rest
              (item :: items, rest)
          | ']' :: rest => ([item], some rest)
          | _ => ([item], none)

def readMembers : Nat → List Char → List (Option String × JsonValue) × Option (List Char)
  | 0, _ => ([], none)
  | fuel + 1, chars =>
      match skipBlanks chars with
      | '"' :: rest =>
          match JsonText.read {} rest with
          | none => ([], none)
          | some (key, rest) =>
              match skipBlanks rest with
              | ':' :: rest =>
                  match readValue fuel rest with
                  | (value, none) => ([(key, value)], none)
                  | (value, some rest) =>
                      match skipBlanks rest with
                      | ',' :: rest =>
                          let (members, rest) := readMembers fuel rest
                          ((key, value) :: members, rest)
                      | '\x7d' :: rest => ([(key, value)], some rest)
                      | _ => ([(key, value)], none)
              | _ => ([(key, .broken)], none)
      | _ => ([], none)

end

/-! ## Equality

Values hold lists of values, for which no instance is derived. -/

mutual

def same : JsonValue → JsonValue → Bool
  | .null, .null | .broken, .broken => true
  | .bool value, .bool other => value = other
  | .number literal, .number other => literal = other
  | .string text, .string other => text = other
  | .array items closed, .array others otherClosed =>
      closed = otherClosed && sameItems items others
  | .object members closed, .object others otherClosed =>
      closed = otherClosed && sameMembers members others
  | _, _ => false

def sameItems : List JsonValue → List JsonValue → Bool
  | [], [] => true
  | item :: items, other :: others => same item other && sameItems items others
  | _, _ => false

def sameMembers :
    List (Option String × JsonValue) → List (Option String × JsonValue) → Bool
  | [], [] => true
  | (name, value) :: members, (otherName, other) :: others =>
      name = otherName && same value other && sameMembers members others
  | _, _ => false

end

mutual

theorem same_iff (left right : JsonValue) : same left right = true ↔ left = right := by
  cases left with
  | null | bool | number | string | broken => cases right <;> simp [same]
  | array items closed =>
      cases right with
      | array others otherClosed => simp [same, same_items_iff items others, and_comm]
      | _ => simp [same]
  | object members closed =>
      cases right with
      | object others otherClosed => simp [same, same_members_iff members others, and_comm]
      | _ => simp [same]

theorem same_items_iff (items others : List JsonValue) :
    sameItems items others = true ↔ items = others := by
  cases items with
  | nil => cases others <;> simp [sameItems]
  | cons item items =>
      cases others with
      | nil => simp [sameItems]
      | cons other others => simp [sameItems, same_iff item other, same_items_iff items others]

theorem same_members_iff (members others : List (Option String × JsonValue)) :
    sameMembers members others = true ↔ members = others := by
  cases members with
  | nil => cases others <;> simp [sameMembers]
  | cons member members =>
      obtain ⟨name, value⟩ := member
      cases others with
      | nil => simp [sameMembers]
      | cons other others =>
          obtain ⟨otherName, other⟩ := other
          simp [sameMembers, same_iff value other, same_members_iff members others]

end

instance : DecidableEq JsonValue := fun left right =>
  decidable_of_decidable_of_iff (same_iff left right)

/-! ## Documents -/

/-- A whole document: its value, and whether nothing but blanks follows. Each character makes at
most two nested calls, which bounds their depth. -/
def readDocument (chars : List Char) : JsonValue × Bool :=
  match readValue (2 * chars.length + 1) chars with
  | (value, some rest) => (value, skipBlanks rest = [])
  | (value, none) => (value, false)

end JsonValue

end SignedResponse
