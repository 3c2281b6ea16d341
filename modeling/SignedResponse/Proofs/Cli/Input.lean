import Mathlib.Tactic.Common
import SignedResponse.Cli.Examination

/-!
What a run is given, and what can be wrong with it.

Each part is looked at by itself here: whether the key is right does not depend on the time, nor the
response on the request. Reading stops at the first part that is not right.
-/

namespace SignedResponse.Cli

/-- The parts of what a run is given, in the order in which faults are told. -/
inductive Part where
  | file
  | document
  | key
  | now
  | request
  | response
deriving DecidableEq

def Part.all : List Part := [.file, .document, .key, .now, .request, .response]

def Failure.of {Error Value : Type} (tell : Error → Failure) : Except Error Value → Option Failure
  | .ok _ => none
  | .error error => some (tell error)

/-- Options, and the bytes of the file or the reason why there are none. -/
structure Input where
  arguments : Arguments
  content : Except String (List UInt8)

namespace Input

def text? (input : Input) : Option String := input.content.toOption.bind Utf8.decode?

def capture? (input : Input) : Option Capture :=
  input.text?.bind fun text => (Capture.ofJson text).toOption

/-- What is wrong with a part. A part of something that is not there has no fault of its own. -/
def fault? (scheme : SignatureScheme) (exceeds : List HeaderName → Bool) (input : Input) :
    Part → Option Failure
  | .file =>
      match input.content with
      | .error reason => some (.file (Utf8.decodeLossy input.arguments.capture) reason)
      | .ok bytes =>
          if (Utf8.decode? bytes).isSome then none
          else some (.file (Utf8.decodeLossy input.arguments.capture)
            "stream did not contain valid UTF-8")
  | .document =>
      input.text?.bind fun text => Failure.of (fun _ => .document text) (Capture.ofJson text)
  | .key =>
      input.arguments.publicKey.bind fun text =>
        Failure.of (fun _ => .publicKey) (PublicKey.ofBase64 scheme text)
  | .now =>
      input.arguments.now.bind fun text =>
        if (Rfc3339.read? text.toList).isSome then none else some (.now text)
  | .request =>
      input.capture?.bind fun capture => Failure.of (.exchange capture) capture.request
  | .response =>
      input.capture?.bind fun capture =>
        if capture.overflows exceeds then some .overflow
        else Failure.of (.exchange capture) capture.response

def IsKey (scheme : SignatureScheme) (input : Input) (key : PublicKey) : Prop :=
  match input.arguments.publicKey with
  | some text => PublicKey.ofBase64 scheme text = .ok key
  | none => key = .root

def IsTime (input : Input) (present now : Instant) : Prop :=
  match input.arguments.now with
  | some text => Rfc3339.read? text.toList = some now
  | none => now = present

end Input

/-- What a run makes of its input when nothing is wrong. -/
structure Examination.IsOf (examination : Examination) (scheme : SignatureScheme) (input : Input)
    (capture : Capture) : Prop where
  document : input.capture? = some capture
  request : capture.request = .ok examination.request
  response : capture.response = .ok examination.response
  key : input.IsKey scheme (examination.key.getD .root)
  now : ∀ present, input.IsTime present (examination.now.getD present)

/-- Reading tells this fault if there is one, or else it comes to something that is right. -/
def Finds {Value : Type} (fault : Option Failure) (right : Value → Prop) :
    Except Failure Value → Prop
  | .ok value => fault = none ∧ right value
  | .error failure => fault = some failure

namespace Finds

variable {Value Other : Type} {fault later : Option Failure} {right : Value → Prop}
variable {rightLater : Other → Prop}

/-- Of two readings in a row, the fault of the first one is told before that of the second. -/
theorem bind {reading : Except Failure Value} {next : Value → Except Failure Other}
    (finds : Finds fault right reading)
    (findsLater : ∀ value, right value → Finds later rightLater (next value)) :
    Finds (fault.or later) rightLater (reading >>= next) := by
  cases reading with
  | error failure =>
      have told : fault = some failure := finds
      rw [told]
      rfl
  | ok value =>
      obtain ⟨sound, isRight⟩ := finds
      rw [sound, Option.none_or]
      exact findsLater value isRight

theorem map {reading : Except Failure Value} (finds : Finds fault right reading)
    (next : Value → Other) (leads : ∀ value, right value → rightLater (next value)) :
    Finds fault rightLater (next <$> reading) := by
  cases reading with
  | error failure => exact finds
  | ok value => exact ⟨finds.1, leads value finds.2⟩

end Finds

namespace Input

variable {scheme : SignatureScheme} {exceeds : List HeaderName → Bool} {input : Input}

def readText (input : Input) : Except Failure String :=
  match input.content with
  | .error reason => .error (.file (Utf8.decodeLossy input.arguments.capture) reason)
  | .ok bytes =>
      match Utf8.decode? bytes with
      | some text => .ok text
      | none => .error (.file (Utf8.decodeLossy input.arguments.capture)
          "stream did not contain valid UTF-8")

def examineText (scheme : SignatureScheme) (exceeds : List HeaderName → Bool) (input : Input)
    (text : String) : Except Failure Examination := do
  let capture ← (Capture.ofJson text).mapError fun _ => .document text
  Examination.ofCapture scheme exceeds input.arguments capture

def examine (scheme : SignatureScheme) (exceeds : List HeaderName → Bool) (input : Input) :
    Except Failure Examination := do
  input.examineText scheme exceeds (← input.readText)

end Input

end SignedResponse.Cli
