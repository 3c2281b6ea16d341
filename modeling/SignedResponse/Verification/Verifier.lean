import SignedResponse.Config.Settings
import SignedResponse.Signature.RootKey
import SignedResponse.Signature.Verify
import SignedResponse.Verification.Api

/-!
The verifier of responses: whether verification applies to an exchange, and how it ends.

`rule` is the policy, a function of the verifier's settings and key and of the exchange. With no key
nothing is verified. Without a readable signature the nonce decides: a request that had one has been
let down. What is left is up to the check of the signature.

A verifier holds its clock and its log twice: as its own, and as those that signatures are checked
with. A new clock or log goes to both places, so they never differ.
-/

namespace SignedResponse

structure Verifier (m : Type → Type) where
  scheme : SignatureScheme
  config : Config
  key : Option PublicKey
  host : Host m
  /-- The clock and the log that signatures are checked with. -/
  signing : Host m
  signing_eq : signing = host

structure Judgement where
  outcome : Outcome
  diagnostic : Option LogRecord := none
deriving DecidableEq

namespace Judgement

def report {m : Type → Type} [Monad m] (judgement : Judgement) (log : LogRecord → m Unit) :
    m Outcome := do
  if let some record := judgement.diagnostic then log record
  return judgement.outcome

end Judgement

inductive Ruling where
  | final (judgement : Judgement)
  | check (key : PublicKey) (signature : String) (parameters : Parameters)
deriving DecidableEq

namespace Verifier

variable {m : Type → Type}

def ofConfig (scheme : SignatureScheme) (host : Host m) (config : Config) : Verifier m :=
  { scheme, config, host
    key := if config.mode.isEnabled then some .root else none
    signing := host
    signing_eq := rfl }

/-- Another key in place of the one in effect, or none. Disabled mode has no key whatever is
given. -/
def withKey (verifier : Verifier m) (key : Option PublicKey) : Verifier m :=
  { verifier with key := if verifier.config.mode.isEnabled then key else none }

def withHost (verifier : Verifier m) (host : Host m) : Verifier m :=
  { verifier with host, signing := host, signing_eq := rfl }

def withClock (verifier : Verifier m) (clock : m Instant) : Verifier m :=
  verifier.withHost { verifier.host with clock := clock }

def withLog (verifier : Verifier m) (log : LogRecord → m Unit) : Verifier m :=
  verifier.withHost { verifier.host with log := log }

/-- A request that asks for a signature when verification is on. The random bytes for its nonce
come from the caller. -/
def createRequest (verifier : Verifier m) (method : Method) (path : String)
    (nonce : Block verifier.config.nonceSize.toNat) : Request :=
  { method, path, nonce := if verifier.key.isSome then some nonce.bytes else none }

def requestDate? (verifier : Verifier m) (response : Response) : Option UInt64 := do
  let text ← response.header verifier.config.headers.requestDate
  let number ← Decimal.read? UInt64.size (Blank.trim text.toList)
  return .ofNat number

def parameters? (verifier : Verifier m) (request : Request) (response : Response) :
    Option Parameters := do
  let requestDate ← verifier.requestDate? response
  return { message := response.message
           nonce := request.nonce
           etag := response.header verifier.config.headers.etag
           requestDate }

def failure (reason : String) (request : Request) : Judgement :=
  ⟨.failed, some ⟨.warn, reason ++ ": " ++ request.text⟩⟩

/-- What the policy says: whether a signature is due, and what has to be checked. -/
def rule (verifier : Verifier m) (request : Request) (response : Response) : Ruling :=
  match verifier.key with
  | none => .final ⟨.notRequested, none⟩
  | some key =>
      match response.header verifier.config.headers.signature with
      | none =>
          .final (if request.nonce.isSome then
            failure "Signature was requested but not provided" request
          else ⟨.notRequested, none⟩)
      | some signature =>
          match verifier.parameters? request response with
          | none => .final (failure "Request date missing or invalid in response headers" request)
          | some parameters => .check key signature parameters

variable [Monad m]

/-- The outcome of an exchange now. A diagnostic of the policy goes to the verifier's own log, one
of the check to the log that signatures are checked with. -/
def outcome (verifier : Verifier m) (request : Request) (response : Response) : m Outcome := do
  match verifier.rule request response with
  | .final judgement => judgement.report verifier.host.log
  | .check key signature parameters =>
      if ← FullSignature.verify verifier.scheme verifier.signing key signature parameters then
        return .verified
      else return .failed

def api (verifier : Verifier m) : VerificationApi m :=
  .ofOutcome verifier.outcome (pure verifier.config.mode)

end Verifier

end SignedResponse
