import SignedResponse.Config.Environment
import SignedResponse.Text.Lowercase

/-!
How a process logs, as its environment says.
-/

namespace SignedResponse

structure LogSettings where
  serviceName : String := "response-verification"
  level : String := "info"
  isShown : Bool := true
  isJson : Bool := false
deriving DecidableEq

namespace LogSettings

def filterVariable : String := "RUST_LOG"

def lower (text : String) : String := String.ofList (Lowercase.ofChars text.toList)

/-- Within a container logs are JSON unless a variable says otherwise. -/
def isContainer (environment : Environment) : Bool :=
  (environment.text? "KUBERNETES_SERVICE_HOST").isSome ||
    (environment.text? "DOCKER_CONTAINER").isSome

def ofEnvironment (environment : Environment) : LogSettings where
  serviceName := (environment.text? "RV_SERVICE_NAME").getD ({} : LogSettings).serviceName
  level := (environment.text? "RV_LOG_LEVEL" <|> environment.text? filterVariable).getD
    ({} : LogSettings).level
  isShown := match environment.text? "RV_CONSOLE_OUTPUT" with
    | some text => lower text ≠ "false" && text ≠ "0"
    | none => true
  isJson := match environment.text? "RV_JSON_LOGS" with
    | some text => lower text = "true" || text = "1"
    | none => isContainer environment

def withLevel (settings : LogSettings) (level : String) : LogSettings := { settings with level }

end LogSettings

end SignedResponse
