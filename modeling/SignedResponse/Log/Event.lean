import SignedResponse.Json.Text
import SignedResponse.Log.Record
import SignedResponse.Text.Decimal

/-!
Log events, and the two ways in which a log shows them.

An event has a target, which says what part of the program it is about, and may have named fields
beside its message. On a console it is one line of plain text, in which the control characters that
a terminal would act on are escaped. Otherwise it is one JSON object.
-/

namespace SignedResponse

inductive LogField where
  | text (value : String)
  | flag (value : Bool)
deriving DecidableEq

structure LogEvent where
  level : Level
  target : String
  message : String
  fields : List (String × LogField) := []
deriving DecidableEq

namespace LogRecord

def event (record : LogRecord) : LogEvent :=
  ⟨record.level, "response_verification", record.message, []⟩

end LogRecord

namespace LogField

def shown : LogField → String
  | .text value => value
  | .flag true => "true"
  | .flag false => "false"

def json : LogField → List Char
  | .text value => JsonText.write value.toList
  | .flag value => (LogField.flag value).shown.toList

end LogField

namespace LogEvent

/-- A character of a message. What starts a terminal command is shown by its number. -/
def escape (char : Char) : List Char :=
  let number := char.toNat
  if number = 0x1B ∨ number = 0x07 ∨ number = 0x08 ∨ number = 0x0C ∨ number = 0x7F then
    '\\' :: 'x' :: Hex.pair number
  else if 0x80 ≤ number ∧ number ≤ 0x9F then
    '\\' :: 'u' :: '\x7b' :: Hex.pair number ++ ['\x7d']
  else [char]

def fieldNames (event : LogEvent) : List String := "message" :: event.fields.map (·.1)

def console (event : LogEvent) : String :=
  let fields := event.fields.map fun field => " " ++ field.1 ++ "=" ++ field.2.shown
  event.level.text ++ " " ++ event.target ++ ": " ++
    String.ofList (event.message.toList.flatMap escape) ++ String.join fields

def consoleAt (time : String) (event : LogEvent) : String := time ++ " " ++ event.console

def jsonAt (time : String) (event : LogEvent) : String :=
  let fields := ("message", LogField.text event.message) :: event.fields
  String.ofList (JsonText.writeObject
    [("timestamp", JsonText.write time.toList),
      ("level", JsonText.write event.level.text.toList),
      ("fields", JsonText.writeObject (fields.map fun field => (field.1, field.2.json))),
      ("target", JsonText.write event.target.toList)])

end LogEvent

end SignedResponse
