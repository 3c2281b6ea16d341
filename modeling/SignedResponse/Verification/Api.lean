import SignedResponse.Config.Mode
import SignedResponse.Verification.Outcome

/-!
What an HTTP client calls: the outcome of an exchange, the response with its outcome, and the
response or an error.

The last two are made from the first unless a service has its own.
-/

namespace SignedResponse

/-- Verification as a service whose effects are those of `m`. In enforced mode a failed verification
is an error; the mode is looked at after a failure only. -/
structure VerificationApi (m : Type → Type) [Monad m] where
  outcome : Request → Response → m Outcome
  mode : m Mode
  verify : Request → Response → m VerifiedResponse := fun request response => do
    return ⟨response, ← outcome request response⟩
  verifyEnforced : Request → Response → m (Except EnforcementError VerifiedResponse) :=
    fun request response => do
      let verified ← verify request response
      if verified.outcome = .failed then
        if (← mode) = .enforced then return .error ⟨request⟩
      return .ok verified

namespace VerificationApi

variable {m n : Type → Type} [Monad m] [Monad n]

def ofOutcome (outcome : Request → Response → m Outcome) (mode : m Mode) : VerificationApi m :=
  { outcome, mode }

/-- The same service among more effects, which it does not use. -/
def lift [MonadLiftT m n] (api : VerificationApi m) : VerificationApi n where
  outcome request response := liftM (api.outcome request response)
  mode := liftM api.mode
  verify request response := liftM (api.verify request response)
  verifyEnforced request response := liftM (api.verifyEnforced request response)

end VerificationApi

end SignedResponse
