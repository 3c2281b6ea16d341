import Std.Time
import SignedResponse.Cli.Run
import SignedResponse.Crypto.Ed25519

/-!
The program: reads the world that a run needs, and writes what it reports.
-/

namespace SignedResponse

def presentTime : IO Instant := do
  let now ← Std.Time.Timestamp.now
  let nanoseconds := now.toNanosecondsSinceUnixEpoch.val
  return (Instant.ofEpoch? (nanoseconds.fdiv 1000000000) (nanoseconds.fmod 1000000000).toNat).getD
    .sample

def variableNames : List String :=
  ["KUBERNETES_SERVICE_HOST", "DOCKER_CONTAINER", "RV_SERVICE_NAME", "RV_LOG_LEVEL", "RUST_LOG",
    "RV_CONSOLE_OUTPUT", "RV_JSON_LOGS"]

def presentEnvironment : IO Environment := do
  let found ← variableNames.filterMapM fun name => do
    return (← IO.getEnv name).map fun value => (name, Utf8.encode value)
  return .ofList found

def fileContent (path : List UInt8) : IO (Except String (List UInt8)) := do
  try
    let content ← IO.FS.readBinFile (Utf8.decodeLossy path)
    return .ok content.toList
  catch
    | .noFileOrDirectory _ code details | .permissionDenied _ code details
    | .inappropriateType _ code details | .invalidArgument _ code details =>
        return .error (details ++ " (os error " ++ Decimal.text code.toNat ++ ")")
    | other => return .error (toString other)

/-- Our own words for what is wrong. -/
def ownLibraries : Cli.Libraries where
  documentCause text :=
    match Capture.ofJson text with
    | .error .malformed => "malformed document"
    | .error fault => fault.message
    | .ok _ => ""
  timeCause text := "no date with time and offset: " ++ text
  nonceCause text := "no canonical base64: " ++ text
  exceeds := Headers.exceeds
  overflowLines := ["too many headers"]

def presentWorld : IO (Cli.World IO) := do
  return { libraries := ownLibraries
           environment := ← presentEnvironment
           file := fileContent
           clock := presentTime
           stopwatch := IO.monoNanosNow }

def writeOutput (time : String) : Cli.Output → IO Unit
  | .line text => IO.println text
  | .event .console event => IO.println (event.consoleAt time)
  | .event .json event => IO.println (event.jsonAt time)

end SignedResponse

def main (arguments : List String) : IO UInt32 := do
  let world ← SignedResponse.presentWorld
  let report ← SignedResponse.Cli.run SignedResponse.ed25519 world
    (arguments.map SignedResponse.Utf8.encode)
  let time := SignedResponse.Rfc3339.text (← SignedResponse.presentTime)
  report.errors.forM IO.eprintln
  report.output.forM (SignedResponse.writeOutput time)
  return report.exitCode.toUInt32
