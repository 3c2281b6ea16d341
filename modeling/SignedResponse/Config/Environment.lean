import SignedResponse.Text.Utf8

/-!
The environment of a process: variables by name, each a byte string.
-/

namespace SignedResponse

structure Environment where
  value? : String → Option (List UInt8)

namespace Environment

def empty : Environment := ⟨fun _ => none⟩

def ofList (entries : List (String × List UInt8)) : Environment :=
  ⟨fun name => (entries.find? fun entry => entry.1 = name).map (·.2)⟩

/-- The value of a variable as text. A variable whose value is no text counts as unset. -/
def text? (environment : Environment) (name : String) : Option String :=
  (environment.value? name).bind Utf8.decode?

end Environment

end SignedResponse
