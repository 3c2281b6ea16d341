import SignedResponse.Http.Error
import SignedResponse.Http.Token
import Std.Data.HashSet

/-!
Headers of an HTTP message: names, values, and the fields of a message in the order they came.

A name may have several values. All look-ups go by name without regard to letter case, which holds
by construction: a `HeaderName` is in lower case.
-/

namespace SignedResponse

def HeaderName.maxLength : Nat := 65535

structure HeaderName where
  token : Token
  isLower : token.lower = token
  fits : token.chars.length ≤ HeaderName.maxLength
deriving DecidableEq

namespace HeaderName

def ofText (text : String) : Except HttpError HeaderName :=
  match Token.ofText? text with
  | some token =>
      if fits : token.lower.chars.length ≤ maxLength then
        .ok ⟨token.lower, token.lower_lower, fits⟩
      else .error .headerName
  | none => .error .headerName

def text (name : HeaderName) : String := name.token.text

end HeaderName

namespace HeaderValue

def tab : UInt8 := 9

def isLegal (byte : UInt8) : Bool := byte == tab || 0x20 ≤ byte && byte != 0x7F

end HeaderValue

structure HeaderValue where
  bytes : List UInt8
  legal : bytes.all HeaderValue.isLegal = true
deriving DecidableEq

namespace HeaderValue

/-- The legal bytes that are ASCII. -/
def isReadable (byte : UInt8) : Bool := byte == tab || 0x20 ≤ byte && byte < 0x7F

def ofBytes (bytes : List UInt8) : Except HttpError HeaderValue :=
  if legal : bytes.all isLegal = true then .ok ⟨bytes, legal⟩ else .error .headerValue

def text? (value : HeaderValue) : Option String :=
  if value.bytes.all isReadable then
    some (String.ofList (value.bytes.map fun byte => Char.ofNat byte.toNat))
  else none

end HeaderValue

structure Headers where
  fields : List (HeaderName × HeaderValue) := []
deriving DecidableEq

namespace Headers

def empty : Headers := {}

def values (headers : Headers) (name : HeaderName) : List HeaderValue :=
  (headers.fields.filter fun field => field.1 = name).map (·.2)

def append (headers : Headers) (name : HeaderName) (value : HeaderValue) : Headers :=
  ⟨headers.fields ++ [(name, value)]⟩

def remove (headers : Headers) (name : HeaderName) : Headers :=
  ⟨headers.fields.filter fun field => field.1 ≠ name⟩

def insert (headers : Headers) (name : HeaderName) (value : HeaderValue) : Headers :=
  (headers.remove name).append name value

def size (headers : Headers) : Nat := headers.fields.length

/-- The values under a name given as text; none under what is no name. -/
def valuesOf (headers : Headers) (name : String) : List HeaderValue :=
  match HeaderName.ofText name with
  | .ok name => headers.values name
  | .error _ => []

def text? (headers : Headers) (name : String) : Option String :=
  (headers.valuesOf name).head?.bind HeaderValue.text?

/-- The number of different names that a message has room for. -/
def maxNames : Nat := 24576

/-- Whether there is no room for fields with these names, added one after the other. Once all names
are taken nothing can be added, not even under a name that is there. -/
def exceeds (names : List HeaderName) : Bool :=
  maxNames ≤ (Std.HashSet.ofList (names.dropLast.map HeaderName.text)).size

theorem values_append (headers : Headers) (name other : HeaderName) (value : HeaderValue) :
    (headers.append name value).values other =
      headers.values other ++ if name = other then [value] else [] := by
  by_cases same : name = other <;> simp [values, append, same]

theorem values_remove (headers : Headers) (name other : HeaderName) :
    (headers.remove name).values other = if other = name then [] else headers.values other := by
  by_cases same : other = name
  · subst same
    simp [values, remove, List.filter_filter]
  · simp only [values, remove, List.filter_filter, same, if_false]
    congr 1
    apply List.filter_congr
    intro field _
    by_cases found : field.1 = other <;> simp_all

end Headers

end SignedResponse
