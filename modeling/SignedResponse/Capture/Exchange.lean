import SignedResponse.Capture.Document
import SignedResponse.Text.Quoted

/-!
The request and the response that a captured exchange stands for, and what can be wrong with them.
-/

namespace SignedResponse

inductive CaptureFault where
  | method (text : String)
  | nonce
  | response (fault : ResponseFault)
deriving DecidableEq

namespace CaptureFault

def message : CaptureFault → String
  | .method text => "invalid method " ++ Quoted.quote text
  | .nonce => "nonce is not base64"
  | .response (.status code) => "invalid status " ++ Decimal.text code
  | .response (.headerName name) => "invalid header name " ++ Quoted.quote name
  | .response (.headerValue name) => "invalid value for header " ++ name

def cause? : CaptureFault → Option HttpError
  | .method _ => some .method
  | .nonce => none
  | .response fault => some fault.cause

end CaptureFault

namespace Capture

/-- The request; the method is looked at before the nonce. -/
def request (capture : Capture) : Except CaptureFault Request := do
  let method ← (Method.ofText capture.method).mapError fun _ => .method capture.method
  let nonce ← match capture.nonce with
    | none => pure none
    | some text =>
        match Base64.decodeText text with
        | some bytes => pure (some bytes)
        | none => throw .nonce
  return { method, path := capture.path, nonce }

def fields (capture : Capture) : List (String × List UInt8) :=
  capture.headers.map fun header => (header.1, Utf8.encode header.2)

def response (capture : Capture) : Except CaptureFault Response :=
  (Response.build capture.status capture.fields (capture.body.map Utf8.encode)).mapError .response

/-- Whether there is no room for the headers. Those that come after one that is not right are not
looked at. -/
def overflows (exceeds : List HeaderName → Bool) (capture : Capture) : Bool :=
  (Status.ofCode capture.status).isOk && exceeds (Response.soundNames capture.fields)

end Capture

end SignedResponse
