import SignedResponse.Proofs.Cli.Input
import SignedResponse.Proofs.Cli.Report
import SignedResponse.Proofs.Verification.Standard

/-!
A run of the program, step by step.

First the file is read and the exchange examined. What is left is one of two things: the first fault
is told, or the exchange is verified and its outcome printed.
-/

namespace SignedResponse.Cli

namespace Examination

/-- How the exchange ends, with the built-in key and the present unless others are given. -/
def result (scheme : SignatureScheme) (mode : Mode) (present : Instant)
    (examination : Examination) : Outcome :=
  let now := examination.now.getD present
  let verifier := Verifier.standard scheme mode (examination.key.getD .root) now
  (verifier.judge now examination.request examination.response).outcome

variable {m : Type → Type} [Monad m]

variable (examination : Examination) (scheme : SignatureScheme) (host : Host m) (mode : Mode)

end Examination

def Arguments.lines (arguments : Arguments) (request : Request) (outcome : Outcome)
    (elapsed : Nat) : List String :=
  (request.method.text ++ " " ++ request.path ++ ": " ++ outcome.text) ::
    if arguments.metrics then ((Metrics.empty.increment outcome).observe elapsed).lines else []

variable {Outside : Type} (scheme : SignatureScheme) (world : World (StateM Outside))
variable (report : Report) (before : Outside)

/-! ## Examining -/

end SignedResponse.Cli
