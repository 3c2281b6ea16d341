import SignedResponse.Config.Environment
import SignedResponse.Config.Mode
import SignedResponse.Text.Decimal

/-!
The settings of a verifier: its mode, the size of nonces and the names of the headers it uses.
-/

namespace SignedResponse

/-- Names of the headers that carry what is verified. They are taken as they are; what is no
header name finds no header. -/
structure HeaderNames where
  signature : String := "X-Signature"
  requestDate : String := "X-RevenueCat-Request-Time"
  etag : String := "X-RevenueCat-ETag"
  nonce : String := "X-Nonce"
deriving DecidableEq

structure Config where
  mode : Mode := .informational
  nonceSize : UInt64 := 12
  headers : HeaderNames := {}
deriving DecidableEq

namespace Config

/-- The settings that the environment gives. What is unset keeps its default; what is set must be
usable, and the mode is looked at first. -/
def ofEnvironment (environment : Environment) : Except ConfigError Config := do
  let mode ← match environment.text? "RV_VERIFICATION_MODE" with
    | none => pure ({} : Config).mode
    | some text => Mode.ofText text
  let nonceSize ← match environment.text? "RV_NONCE_SIZE" with
    | none => pure ({} : Config).nonceSize
    | some text =>
        match Decimal.read? UInt64.size text.toList with
        | some (size + 1) => pure (UInt64.ofNat (size + 1))
        | _ => throw (.nonceSize text)
  return { mode, nonceSize }

end Config

end SignedResponse
