import SignedResponse.Signature.FullSignature

/-!
Verification with its surroundings: the clock that is asked and the log that is told.

Nothing but the check decides. Its answer becomes yes or no, and each no is told once.
-/

namespace SignedResponse

structure Host (m : Type → Type) where
  clock : m Instant
  log : LogRecord → m Unit

namespace FullSignature

variable {m : Type → Type} [Monad m]

/-- Whether a signature text is accepted now; a refusal is logged. -/
def verify (scheme : SignatureScheme) (host : Host m) (root : PublicKey) (text : String)
    (parameters : Parameters) : m Bool := do
  match ← (checkBy scheme root host.clock text parameters).run with
  | .ok () => return true
  | .error error =>
      host.log error.record
      return false

end FullSignature

end SignedResponse
