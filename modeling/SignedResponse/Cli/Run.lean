import SignedResponse.Cli.Examination
import SignedResponse.Log.Logging
import SignedResponse.Metrics.Metered

/-!
A run of the program: from arguments, environment and file to output and exit code.

The exit code is 0 when the exchange is verified or nothing was asked for, 1 when verification
failed, and 2 when there was nothing to verify. A run that is broken off, since there is no room for
the headers of a response, ends with 101.
-/

namespace SignedResponse.Cli

/-- What a run takes from outside, as actions of `m`. -/
structure World (m : Type → Type) where
  libraries : Libraries
  environment : Environment
  file : List UInt8 → m (Except String (List UInt8))
  clock : m Instant
  stopwatch : m Nat

inductive Output where
  | line (text : String)
  | event (format : LogFormat) (event : LogEvent)
deriving DecidableEq

structure Report where
  output : List Output := []
  errors : List String := []
  exitCode : Nat := 0
deriving DecidableEq

namespace Report

def print (report : Report) (lines : List String) : Report :=
  { report with output := report.output ++ lines.map .line }

def complain (report : Report) (lines : List String) : Report :=
  { report with errors := report.errors ++ lines }

def exit (report : Report) (code : Nat) : Report := { report with exitCode := code }

end Report

variable {m : Type → Type} [Monad m]

def writeEvent (logging : Option Logging) (event : LogEvent) : StateT Report m Unit :=
  modify fun report =>
    match logging.bind (·.form? event) with
    | some format => { report with output := report.output ++ [.event format event] }
    | none => report

def host (world : World m) (logging : Option Logging) : Host (StateT Report m) where
  clock := liftM world.clock
  log record := writeEvent logging record.event

/-- Starts logging; a process goes on without it when that fails. -/
def startLogging (world : World m) : StateT Report m (Option Logging) := do
  let settings := LogSettings.ofEnvironment world.environment
  match Logging.start world.environment settings false with
  | .ok logging =>
      writeEvent (some logging) (Logging.opening settings)
      return some logging
  | .error fault =>
      modify (·.complain ["Warning: Failed to initialize logging: " ++ fault.message])
      return none

def readCapture (world : World m) (path : List UInt8) : m (Except Failure String) := do
  let shown := Utf8.decodeLossy path
  match ← world.file path with
  | .error reason => return .error (.file shown reason)
  | .ok bytes =>
      match Utf8.decode? bytes with
      | some text => return .ok text
      | none => return .error (.file shown "stream did not contain valid UTF-8")

/-- Reads the exchange out of a document. A key that disabled mode makes useless is warned about as
soon as the document turns out to be right. -/
def examine (scheme : SignatureScheme) (exceeds : List HeaderName → Bool) (arguments : Arguments)
    (text : String) : StateT Report m (Except Failure Examination) := do
  match Capture.ofJson text with
  | .error _ => return .error (.document text)
  | .ok capture =>
      if arguments.publicKey.isSome ∧ arguments.mode.isEnabled = false then
        modify (·.complain ["Warning: --public-key has no effect in disabled mode"])
      return Examination.ofCapture scheme exceeds arguments capture

def exitCode : Outcome → Nat
  | .failed => 1
  | .notRequested | .verified => 0

/-- Verifies an exchange and prints how it ends, and what was measured if that is asked for. -/
def verify (scheme : SignatureScheme) (world : World m) (logging : Option Logging)
    (arguments : Arguments) (examination : Examination) : StateT Report m Unit := do
  let verifier := examination.verifier scheme (host world logging) arguments.mode
  let api : VerificationApi (StateT Metrics (StateT Report m)) :=
    verifier.api.lift.metered (liftM (liftM world.stopwatch : StateT Report m Nat))
  let (verified, metrics) ← (api.verify examination.request examination.response).run .empty
  modify fun report => (report.print
    ((examination.request.text ++ ": " ++ verified.outcome.text) ::
      if arguments.metrics then metrics.lines else [])).exit (exitCode verified.outcome)

def perform (scheme : SignatureScheme) (world : World m) (arguments : Arguments) :
    StateT Report m Unit := do
  let logging ← startLogging world
  let examination ← match ← liftM (readCapture world arguments.capture) with
    | .error failure => pure (.error failure)
    | .ok text => examine scheme world.libraries.exceeds arguments text
  match examination with
  | .ok examination => verify scheme world logging arguments examination
  | .error failure =>
      modify fun report => (report.complain (failure.lines world.libraries)).exit failure.exitCode
  writeEvent logging Logging.closing

def helpLines : List String :=
  ["Verify the signature of a captured HTTP response",
    "",
    "Usage: rv-verify [OPTIONS] <CAPTURE>",
    "",
    "Arguments:",
    "  <CAPTURE>  JSON file describing the exchange",
    "",
    "Options:",
    "      --public-key <PUBLIC_KEY>  Root public key (base64, 32 bytes) instead of the embedded one",
    "      --now <NOW>                Evaluate key expiration at this instant (RFC 3339) instead of now",
    "      --mode <MODE>              disabled, informational or enforced [default: informational]",
    "      --metrics                  Print Prometheus metrics after verifying",
    "  -h, --help                     Print help"]

def run (scheme : SignatureScheme) (world : World m) (arguments : List (List UInt8)) : m Report :=
  match Arguments.read arguments with
  | .ok arguments => do
      let ((), report) ← (perform scheme world arguments).run {}
      return report
  | .error .help => return ({} : Report).print helpLines
  | .error (.fault fault) => return (({} : Report).complain ["error: " ++ fault.message]).exit 2

end SignedResponse.Cli
