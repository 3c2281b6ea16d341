import SignedResponse.Log.Filter
import SignedResponse.Log.Settings

/-!
Logging of a process: which events are written, and how.

A process starts logging once. The variable with the filter comes first when it holds one, then
the level of the settings.
-/

namespace SignedResponse

inductive LogFormat where
  | console
  | json
deriving DecidableEq

structure Logging where
  filter : LogFilter
  /-- The form of events; with none they are not written. -/
  format : Option LogFormat
deriving DecidableEq

inductive LoggingFault where
  | filter (fault : FilterFault)
  | alreadyStarted
deriving DecidableEq

namespace LoggingFault

def message (fault : LoggingFault) : String :=
  "Failed to initialize tracing subscriber: " ++ match fault with
    | .filter fault => fault.message
    | .alreadyStarted => "a global default trace dispatcher has already been set"

end LoggingFault

namespace Logging

/-- The filter of the environment, if it has one, or else the one of the settings. -/
def chooseFilter (environment : Environment) (settings : LogSettings) :
    Except FilterFault LogFilter :=
  match (environment.text? LogSettings.filterVariable).map LogFilter.read with
  | some (.ok filter) => .ok filter
  | _ => LogFilter.read settings.level

/-- Logging as the settings say, unless the process has started it before. -/
def start (environment : Environment) (settings : LogSettings) (isStarted : Bool) :
    Except LoggingFault Logging := do
  let filter ← (chooseFilter environment settings).mapError .filter
  if isStarted then throw .alreadyStarted
  return { filter
           format := if settings.isShown = false then none
             else if settings.isJson then some .json else some .console }

def opening (settings : LogSettings) : LogEvent where
  level := .debug
  target := "rv_telemetry::tracing_setup"
  message := "Tracing initialized"
  fields := [("service", .text settings.serviceName), ("json_logs", .flag settings.isJson)]

def closing : LogEvent := ⟨.debug, "rv_telemetry", "Shutting down telemetry", []⟩

def form? (logging : Logging) (event : LogEvent) : Option LogFormat :=
  if logging.filter.admits event then logging.format else none

end Logging

end SignedResponse
