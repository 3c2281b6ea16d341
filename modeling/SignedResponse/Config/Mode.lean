import SignedResponse.Text.Blank
import SignedResponse.Text.Lowercase

/-!
How strongly responses are verified, and the texts that name each mode.
-/

namespace SignedResponse

inductive Mode where
  | disabled
  | informational
  | enforced
deriving DecidableEq

namespace Mode

def all : List Mode := [.disabled, .informational, .enforced]

def text : Mode → String
  | .disabled => "disabled"
  | .informational => "informational"
  | .enforced => "enforced"

def isEnabled : Mode → Bool
  | .disabled => false
  | .informational | .enforced => true

end Mode

inductive ConfigError where
  | mode (text : String)
  | nonceSize (text : String)
deriving DecidableEq

namespace ConfigError

def message : ConfigError → String
  | .mode text => "Invalid verification mode: " ++ text
  | .nonceSize text => "Invalid nonce size: " ++ text

end ConfigError

namespace Mode

/-- The mode with this name; blanks around it and letter case do not count. -/
def ofText (text : String) : Except ConfigError Mode :=
  let name := String.ofList (Lowercase.ofChars (Blank.trim text.toList))
  match all.find? fun mode => mode.text = name with
  | some mode => .ok mode
  | none => .error (.mode name)

end Mode

end SignedResponse
