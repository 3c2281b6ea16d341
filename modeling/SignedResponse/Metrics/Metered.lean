import SignedResponse.Metrics.Exposition
import SignedResponse.Verification.Api

/-!
Verification that is measured: each outcome is counted and timed.

All that is measured goes into one set of metrics, which is part of the state. So a service that
measures may itself be measured, and then an outcome is counted twice.
-/

namespace SignedResponse

section

variable {m : Type → Type} [Monad m] [MonadStateOf Metrics m]

/-- An action whose duration is observed once it is over. The stopwatch tells nanoseconds from any
start. -/
def Metrics.timed {Answer : Type} (stopwatch : m Nat) (action : m Answer) : m Answer := do
  let start ← stopwatch
  let answer ← action
  let stop ← stopwatch
  modifyThe Metrics (·.observe (stop - start))
  return answer

/-- The outcomes and the mode of a service, measured. What else the service has of its own is left
behind. -/
def VerificationApi.metered (api : VerificationApi m) (stopwatch : m Nat) : VerificationApi m where
  mode := api.mode
  outcome request response := Metrics.timed stopwatch do
    let outcome ← api.outcome request response
    modifyThe Metrics (·.increment outcome)
    return outcome

end

end SignedResponse
