import SignedResponse.Http.Exchange

/-!
The outcome of verifying one response, and the response that carries it.
-/

namespace SignedResponse

inductive Outcome where
  | notRequested
  | verified
  | failed
deriving DecidableEq

namespace Outcome

def all : List Outcome := [.notRequested, .verified, .failed]

def text : Outcome → String
  | .notRequested => "not_requested"
  | .verified => "verified"
  | .failed => "failed"

def isVerified (outcome : Outcome) : Bool := outcome = .verified

end Outcome

structure VerifiedResponse where
  response : Response
  outcome : Outcome
deriving DecidableEq

structure EnforcementError where
  request : Request
deriving DecidableEq

namespace EnforcementError

def message (error : EnforcementError) : String :=
  "Signature verification failed for " ++ error.request.text

end EnforcementError

end SignedResponse
