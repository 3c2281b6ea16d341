import Mathlib.Tactic.Common
import SignedResponse.Crypto.Ed25519
import SignedResponse.Proofs.Verification.Effects

/-!
Enforced verification fails closed.

A request that the verifier made has a nonce whenever a key is in effect, so no response to it can
end in an outcome that is neither a success nor an error.
-/

namespace SignedResponse.Verifier

variable {World : Type}

theorem run_verify_enforced_cases (verifier : Verifier (StateM World)) (key : PublicKey)
    (enforced : verifier.config.mode = .enforced) (trusted : verifier.key = some key)
    (request : Request) (nonce : request.nonce.isSome = true) (response : Response)
    (world : World) :
    let asked := verifier.host.askIf (verifier.AsksTime response) world
    (verifier.Accepts key asked.1 request response ∧
        (verifier.api.verifyEnforced request response).run world =
          (.ok ⟨response, .verified⟩, asked.2)) ∨
      (¬ verifier.Accepts key asked.1 request response ∧
        ∃ record, (verifier.api.verifyEnforced request response).run world =
          (.error ⟨request⟩, verifier.host.tell asked.2 [record])) := by
  intro asked
  have ran : (verifier.outcome request response).run world =
      ((verifier.judge asked.1 request response).outcome, verifier.host.tell asked.2
        (verifier.judge asked.1 request response).diagnostic.toList) :=
    verifier.run_outcome request response world
  rw [run_verify_enforced, ran]
  rcases judge_of_nonce trusted nonce with ⟨accepted, judged⟩ | ⟨refused, record, judged⟩
  · refine Or.inl ⟨accepted, ?_⟩
    simp only [judged, reduceCtorEq, false_and, if_false]
    rfl
  · refine Or.inr ⟨refused, record, ?_⟩
    simp only [judged, enforced, and_self, if_true]
    rfl

/-- In enforced mode, with a key in effect, a response to a request that the verifier made is
handed over exactly when its signature is readable, its date is one, and the signature passes the
check for what the server signed: the nonce of this request, and the tag, date and body of this
response. It is then handed over as it came, as verified, and without a word in the log. In every
other case the answer is an error that names the request, and one diagnostic is logged. The clock is
asked if there is a certificate to compare with the time. -/
theorem enforced_fails_closed (verifier : Verifier (StateM World)) (key : PublicKey)
    (enforced : verifier.config.mode = .enforced) (trusted : verifier.key = some key)
    (method : Method) (path : String) (nonce : Block verifier.config.nonceSize.toNat)
    (response : Response) (world : World) :
    let request := verifier.createRequest method path nonce
    let asked := verifier.host.askIf (verifier.AsksTime response) world
    let answer := ((verifier.api.verifyEnforced request response).run world).1
    let after := ((verifier.api.verifyEnforced request response).run world).2
    (∀ verified, answer = .ok verified ↔
      verified = ⟨response, .verified⟩ ∧ ∃ signature requestDate,
        response.header verifier.config.headers.signature = some signature ∧
          verifier.requestDate? response = some requestDate ∧
          FullSignature.check verifier.scheme key asked.1 signature
            { message := if response.status = .notModified then none else response.body
              nonce := some nonce.bytes
              etag := response.header verifier.config.headers.etag
              requestDate } = .ok ()) ∧
      (∀ verified, answer = .ok verified → after = asked.2) ∧
      (∀ error, answer = .error error →
        error.message =
            "Signature verification failed for " ++ (method.text ++ " " ++ path) ∧
          ∃ record, after = verifier.host.tell asked.2 [record]) := by
  intro request asked answer after
  have carriesNonce : request.nonce = some nonce.bytes := by
    simp only [request, createRequest, trusted, Option.isSome_some, if_true]
  have accepts : verifier.Accepts key asked.1 request response ↔ ∃ signature requestDate,
      response.header verifier.config.headers.signature = some signature ∧
        verifier.requestDate? response = some requestDate ∧
        FullSignature.check verifier.scheme key asked.1 signature
          { message := if response.status = .notModified then none else response.body
            nonce := some nonce.bytes
            etag := response.header verifier.config.headers.etag
            requestDate } = .ok () := by
    rw [← carriesNonce]
    rfl
  have isAsked : request.nonce.isSome = true := by rw [carriesNonce]; rfl
  rw [← accepts]
  rcases run_verify_enforced_cases verifier key enforced trusted request isAsked response world with
    ⟨accepted, run⟩ | ⟨refused, record, run⟩
  · have answered : answer = .ok ⟨response, .verified⟩ := congrArg Prod.fst run
    refine ⟨fun verified => ?_, fun _ _ => congrArg Prod.snd run, fun error same => ?_⟩
    · rw [answered, Except.ok.injEq, eq_comm]
      exact (and_iff_left accepted).symm
    · rw [answered] at same
      cases same
  · have answered : answer = .error ⟨request⟩ := congrArg Prod.fst run
    refine ⟨fun verified => ?_, fun verified same => ?_, fun error same => ?_⟩
    · rw [answered]
      exact ⟨nofun, fun held => absurd held.2 refused⟩
    · rw [answered] at same
      cases same
    · rw [answered] at same
      cases same
      exact ⟨rfl, record, congrArg Prod.snd run⟩

/-- A health check whose response lost its signature is refused, and the journal tells it. -/
theorem enforced_refuses_unsigned_health :
    let verifier := ofConfig ed25519 (.recording .sample) { mode := .enforced }
    let request := verifier.createRequest .get "/v1/health" (.replicate 12 7)
    let run := (verifier.api.verifyEnforced request ⟨.ok, .empty, some [0x22, 0x22]⟩).run .empty
    ∃ error record, run.1 = .error error ∧ run.2 = ⟨[record]⟩ ∧
      error.message =
        "Signature verification failed for " ++ (Method.get.text ++ " " ++ "/v1/health") := by
  intro verifier request run
  obtain ⟨handedOver, -, refused⟩ := enforced_fails_closed verifier .root rfl rfl .get "/v1/health"
    (.replicate 12 7) ⟨.ok, .empty, some [0x22, 0x22]⟩ .empty
  cases answered : run.1 with
  | ok verified =>
      obtain ⟨-, signature, _, carried, -⟩ := (handedOver verified).mp answered
      have absent : Headers.empty.text? verifier.config.headers.signature = none := by decide
      exact absurd (absent.symm.trans carried) nofun
  | error error =>
      obtain ⟨message, record, told⟩ := refused error answered
      refine ⟨error, record, rfl, told.trans ?_, message⟩
      rw [Host.ask_if_of_pinned rfl]
      exact Host.tell_recording .sample .empty [record]

end SignedResponse.Verifier
