import SignedResponse.Config.Settings
import SignedResponse.Json.Shape
import SignedResponse.Verification.Outcome

/-!
Settings and outcomes as JSON.

Settings may be given in part. They are written in full, without blanks, in the order of their
fields.
-/

namespace SignedResponse

namespace HeaderNames

def shape : JsonShape HeaderNames where
  title := "HeaderNames"
  defaults := {}
  fields :=
    [{ name := "signature"
       set := fun value names => return { names with signature := ← value.readText } },
      { name := "request_date"
        set := fun value names => return { names with requestDate := ← value.readText } },
      { name := "etag"
        set := fun value names => return { names with etag := ← value.readText } },
      { name := "nonce"
        set := fun value names => return { names with nonce := ← value.readText } }]

end HeaderNames

namespace Config

def shape : JsonShape Config where
  title := "VerificationConfig"
  defaults := {}
  fields :=
    [{ name := "mode"
       set := fun value config => do
         let choices := Mode.all.map fun mode => (mode.text, mode)
         return { config with mode := ← value.readChoice choices } },
      { name := "nonce_size"
        set := fun value config => do
          let size ← value.readNatural UInt64.size "usize"
          return { config with nonceSize := .ofNat size } },
      { name := "headers"
        set := fun value config =>
          return { config with headers := ← HeaderNames.shape.read value } }]

def ofJson (text : String) : Except JsonFault Config := JsonValue.readWhole shape.read text

def json (config : Config) : String :=
  let text (value : String) := JsonText.write value.toList
  let headers := JsonText.writeObject
    [("signature", text config.headers.signature),
      ("request_date", text config.headers.requestDate), ("etag", text config.headers.etag),
      ("nonce", text config.headers.nonce)]
  String.ofList (JsonText.writeObject
    [("mode", text config.mode.text), ("nonce_size", Decimal.digits config.nonceSize.toNat),
      ("headers", headers)])

end Config

namespace Outcome

def ofJson (text : String) : Except JsonFault Outcome :=
  JsonValue.readWhole (JsonValue.readChoice (all.map fun outcome => (outcome.text, outcome))) text

def json (outcome : Outcome) : String := String.ofList (JsonText.write outcome.text.toList)

end Outcome

end SignedResponse
