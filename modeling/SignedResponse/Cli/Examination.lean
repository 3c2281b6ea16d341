import SignedResponse.Capture.Exchange
import SignedResponse.Cli.Arguments
import SignedResponse.Signature.RootKey
import SignedResponse.Time.Rfc3339
import SignedResponse.Verification.Verifier

/-!
What a command line and a captured exchange come to: a verifier, a request and a response.

The parts are looked at in a fixed order, and the first one that is not right is told: the document,
the key, the time, the request, the response. The mode makes no difference to that.
-/

namespace SignedResponse.Cli

/-- What a run leaves to others: how they put into words what is wrong with a text, and how many
headers they can hold. -/
structure Libraries where
  documentCause : String → String
  timeCause : String → String
  nonceCause : String → String
  /-- Whether there is no room for header fields with these names, added one after the other. -/
  exceeds : List HeaderName → Bool
  /-- The lines on the error stream when there is no room. -/
  overflowLines : List String

inductive Failure where
  | file (path reason : String)
  | document (text : String)
  | publicKey
  | now (text : String)
  | exchange (capture : Capture) (fault : CaptureFault)
  | overflow
deriving DecidableEq

namespace Failure

def lines (libraries : Libraries) : Failure → List String
  | .file path reason => ["Error: reading " ++ path ++ ": " ++ reason]
  | .document text => ["Error: capture is not valid JSON: " ++ libraries.documentCause text]
  | .publicKey => ["Error: invalid --public-key: " ++ SignatureError.notPublicKey.message]
  | .now text => ["Error: invalid --now: " ++ libraries.timeCause text]
  | .exchange capture fault =>
      let cause := match fault.cause? with
        | some cause => cause.message
        | none => (capture.nonce.map libraries.nonceCause).getD ""
      ["Error: " ++ fault.message ++ ": " ++ cause]
  | .overflow => libraries.overflowLines

def exitCode : Failure → Nat
  | .overflow => 101
  | _ => 2

end Failure

structure Examination where
  key : Option PublicKey
  now : Option Instant
  request : Request
  response : Response

namespace Examination

def readKey (scheme : SignatureScheme) (text : String) : Except Failure PublicKey :=
  (PublicKey.ofBase64 scheme text).mapError fun _ => .publicKey

def readNow (text : String) : Except Failure Instant :=
  match Rfc3339.read? text.toList with
  | some now => .ok now
  | none => .error (.now text)

def readResponse (exceeds : List HeaderName → Bool) (capture : Capture) :
    Except Failure Response :=
  if capture.overflows exceeds then .error .overflow
  else capture.response.mapError (.exchange capture)

def ofCapture (scheme : SignatureScheme) (exceeds : List HeaderName → Bool) (arguments : Arguments)
    (capture : Capture) : Except Failure Examination := do
  let key ← arguments.publicKey.mapM (readKey scheme)
  let now ← arguments.now.mapM readNow
  let request ← capture.request.mapError (.exchange capture)
  let response ← readResponse exceeds capture
  return { key, now, request, response }

variable {m : Type → Type} [Monad m]

/-- The verifier for an exchange: default settings in the given mode, and what the command line
puts in place of key and clock. -/
def verifier (scheme : SignatureScheme) (host : Host m) (mode : Mode) (examination : Examination) :
    Verifier m :=
  let verifier := Verifier.ofConfig scheme host { mode }
  let keyed := match examination.key with
    | some key => verifier.withKey (some key)
    | none => verifier
  match examination.now with
  | some now => keyed.withClock (pure now)
  | none => keyed

end Examination

end SignedResponse.Cli
