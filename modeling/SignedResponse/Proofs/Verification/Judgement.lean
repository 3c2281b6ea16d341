import Mathlib.Tactic.Common
import SignedResponse.Verification.Verifier

/-!
The decision on an exchange at a given time, told by what it rests on.

With a key there are three ends: the signature is accepted, nothing was asked for, or there is a
failure with a diagnostic. Which one it is depends on the headers, the nonce and the check alone.
-/

namespace SignedResponse

def Judgement.ofCheck : Except SignatureError Unit → Judgement
  | .ok () => ⟨.verified, none⟩
  | .error error => ⟨.failed, some error.record⟩

namespace Verifier

def judge {m : Type → Type} (verifier : Verifier m) (now : Instant) (request : Request)
    (response : Response) : Judgement :=
  match verifier.rule request response with
  | .final judgement => judgement
  | .check key signature parameters =>
      .ofCheck (FullSignature.check verifier.scheme key now signature parameters)

variable {m : Type → Type} {verifier : Verifier m} {key : PublicKey} {now : Instant}
variable {request : Request} {response : Response}

/-- What the server signed for an exchange whose response tells this date. A response that says
that nothing was modified has no message, whatever its body. -/
def signedParameters (verifier : Verifier m) (request : Request) (response : Response)
    (requestDate : UInt64) : Parameters where
  message := if response.status = .notModified then none else response.body
  nonce := request.nonce
  etag := response.header verifier.config.headers.etag
  requestDate := requestDate

/-- The response carries a readable signature and a date, and the signature passes the check for
what the server signed. -/
def Accepts (verifier : Verifier m) (key : PublicKey) (now : Instant) (request : Request)
    (response : Response) : Prop :=
  ∃ signature requestDate,
    response.header verifier.config.headers.signature = some signature ∧
      verifier.requestDate? response = some requestDate ∧
      FullSignature.check verifier.scheme key now signature
        (verifier.signedParameters request response requestDate) = .ok ()

theorem request_date_eq_bind :
    verifier.requestDate? response =
      (response.header verifier.config.headers.requestDate).bind fun text =>
        (Decimal.read? UInt64.size (Blank.trim text.toList)).map UInt64.ofNat := by
  cases found : response.header verifier.config.headers.requestDate with
  | none =>
      rw [requestDate?, found]
      rfl
  | some text =>
      rw [requestDate?, found, Option.bind_some, Option.map_eq_bind]
      rfl

theorem parameters_eq_map :
    verifier.parameters? request response =
      (verifier.requestDate? response).map (verifier.signedParameters request response) := by
  cases found : verifier.requestDate? response with
  | none =>
      rw [parameters?, found]
      rfl
  | some requestDate =>
      have message : response.message = if response.status = .notModified then none
          else response.body := by
        by_cases same : response.status = .notModified <;>
          simp [Response.message, Response.isNotModified, same]
      rw [parameters?, found, Option.map_some, signedParameters, ← message]
      rfl

theorem rule_of_signed {signature : String} {requestDate : UInt64}
    (trusted : verifier.key = some key)
    (carried : response.header verifier.config.headers.signature = some signature)
    (dated : verifier.requestDate? response = some requestDate) :
    verifier.rule request response =
      .check key signature (verifier.signedParameters request response requestDate) := by
  simp only [rule, trusted, carried, parameters_eq_map, dated, Option.map_some]

theorem signed_of_rule {signature : String} {parameters : Parameters}
    (ruled : verifier.rule request response = .check key signature parameters) :
    verifier.key = some key ∧
      response.header verifier.config.headers.signature = some signature ∧
        ∃ requestDate, verifier.requestDate? response = some requestDate := by
  rw [rule, parameters_eq_map] at ruled
  cases trusted : verifier.key with
  | none => simp [trusted] at ruled
  | some held =>
      cases carried : response.header verifier.config.headers.signature with
      | none => simp [trusted, carried] at ruled
      | some text =>
          cases dated : verifier.requestDate? response with
          | none => simp [trusted, carried, dated] at ruled
          | some requestDate =>
              simp only [trusted, carried, dated, Option.map_some, Ruling.check.injEq] at ruled
              obtain ⟨rfl, rfl, -⟩ := ruled
              exact ⟨rfl, rfl, requestDate, rfl⟩

theorem judge_of_signed {signature : String} {requestDate : UInt64}
    (trusted : verifier.key = some key)
    (carried : response.header verifier.config.headers.signature = some signature)
    (dated : verifier.requestDate? response = some requestDate) :
    verifier.judge now request response =
      .ofCheck (FullSignature.check verifier.scheme key now signature
        (verifier.signedParameters request response requestDate)) := by
  rw [judge, rule_of_signed trusted carried dated]

theorem judge_of_undated {signature : String} (trusted : verifier.key = some key)
    (carried : response.header verifier.config.headers.signature = some signature)
    (undated : verifier.requestDate? response = none) :
    verifier.judge now request response =
      failure "Request date missing or invalid in response headers" request := by
  simp only [judge, rule, trusted, carried, parameters_eq_map, undated, Option.map_none]

theorem judge_of_unsigned (trusted : verifier.key = some key)
    (absent : response.header verifier.config.headers.signature = none) :
    verifier.judge now request response =
      if request.nonce.isSome then failure "Signature was requested but not provided" request
      else ⟨.notRequested, none⟩ := by
  simp only [judge, rule, trusted, absent]

theorem judge_of_keyless (keyless : verifier.key = none) :
    verifier.judge now request response = ⟨.notRequested, none⟩ := by
  simp only [judge, rule, keyless]

theorem accepts_iff_of_dated {signature : String} {requestDate : UInt64}
    (carried : response.header verifier.config.headers.signature = some signature)
    (dated : verifier.requestDate? response = some requestDate) :
    verifier.Accepts key now request response ↔
      FullSignature.check verifier.scheme key now signature
        (verifier.signedParameters request response requestDate) = .ok () := by
  constructor
  · rintro ⟨otherSignature, otherDate, otherCarried, otherDated, accepted⟩
    rw [carried] at otherCarried
    rw [dated] at otherDated
    cases otherCarried
    cases otherDated
    exact accepted
  · intro accepted
    exact ⟨signature, requestDate, carried, dated, accepted⟩

theorem not_accepts_of_unsigned
    (absent : response.header verifier.config.headers.signature = none) :
    ¬ verifier.Accepts key now request response := by
  rintro ⟨signature, _, carried, -⟩
  rw [absent] at carried
  cases carried

theorem not_accepts_of_undated (undated : verifier.requestDate? response = none) :
    ¬ verifier.Accepts key now request response := by
  rintro ⟨_, requestDate, -, dated, -⟩
  rw [undated] at dated
  cases dated

/-- Nobody asked for a signature, or nobody can check one. -/
def Unasked (verifier : Verifier m) (request : Request) (response : Response) : Prop :=
  verifier.key = none ∨
    response.header verifier.config.headers.signature = none ∧ request.nonce = none

theorem not_unasked_of_signed {signature : String} (trusted : verifier.key = some key)
    (carried : response.header verifier.config.headers.signature = some signature) :
    ¬ verifier.Unasked request response := by
  rintro (keyless | ⟨absent, -⟩)
  · rw [trusted] at keyless
    cases keyless
  · rw [carried] at absent
    cases absent

theorem judge_of_dated {signature : String} {requestDate : UInt64}
    (trusted : verifier.key = some key)
    (carried : response.header verifier.config.headers.signature = some signature)
    (dated : verifier.requestDate? response = some requestDate) :
    (verifier.Accepts key now request response ∧
        verifier.judge now request response = ⟨.verified, none⟩) ∨
      (¬ verifier.Accepts key now request response ∧
        ∃ record, verifier.judge now request response = ⟨.failed, some record⟩) := by
  rw [accepts_iff_of_dated carried dated, judge_of_signed trusted carried dated]
  cases FullSignature.check verifier.scheme key now signature
      (verifier.signedParameters request response requestDate) with
  | ok => exact Or.inl ⟨rfl, rfl⟩
  | error error => exact Or.inr ⟨nofun, error.record, rfl⟩

/-- An exchange ends in one of three ways, and a diagnostic goes with a failure only. -/
theorem judge_cases (verifier : Verifier m) (now : Instant) (request : Request)
    (response : Response) :
    (verifier.Unasked request response ∧
        verifier.judge now request response = ⟨.notRequested, none⟩) ∨
      (∃ key, verifier.key = some key ∧ verifier.Accepts key now request response ∧
        verifier.judge now request response = ⟨.verified, none⟩) ∨
      (¬ verifier.Unasked request response ∧
        (∀ key, verifier.key = some key → ¬ verifier.Accepts key now request response) ∧
          ∃ record, verifier.judge now request response = ⟨.failed, some record⟩) := by
  -- The cases come in the order in which `rule` asks: key, signature and nonce, date, check.
  cases trusted : verifier.key with
  | none => exact Or.inl ⟨Or.inl trusted, judge_of_keyless trusted⟩
  | some key =>
      cases carried : response.header verifier.config.headers.signature with
      | none =>
          have judged := @judge_of_unsigned _ _ _ now request _ trusted carried
          cases nonce : request.nonce with
          | none =>
              rw [nonce] at judged
              exact Or.inl ⟨Or.inr ⟨carried, nonce⟩, judged⟩
          | some bytes =>
              rw [nonce] at judged
              refine Or.inr (Or.inr ⟨?_, fun _ _ => not_accepts_of_unsigned carried, _, judged⟩)
              rintro (keyless | ⟨-, unasked⟩)
              · rw [trusted] at keyless
                cases keyless
              · rw [nonce] at unasked
                cases unasked
      | some signature =>
          have asked : ¬ verifier.Unasked request response :=
            not_unasked_of_signed trusted carried
          cases dated : verifier.requestDate? response with
          | none =>
              exact Or.inr (Or.inr ⟨asked, fun _ _ => not_accepts_of_undated dated, _,
                judge_of_undated trusted carried dated⟩)
          | some requestDate =>
              rcases judge_of_dated trusted carried dated with
                ⟨accepts, verified⟩ | ⟨refused, failed⟩
              · exact Or.inr (Or.inl ⟨key, rfl, accepts, verified⟩)
              · refine Or.inr (Or.inr ⟨asked, ?_, failed⟩)
                intro other found
                cases found
                exact refused

theorem judge_of_nonce (trusted : verifier.key = some key) (asked : request.nonce.isSome = true) :
    (verifier.Accepts key now request response ∧
        verifier.judge now request response = ⟨.verified, none⟩) ∨
      (¬ verifier.Accepts key now request response ∧
        ∃ record, verifier.judge now request response = ⟨.failed, some record⟩) := by
  rcases judge_cases verifier now request response with
    ⟨unasked, -⟩ | ⟨other, found, accepts, judged⟩ | ⟨-, refused, failed⟩
  · rcases unasked with keyless | ⟨-, nonce⟩
    · rw [trusted] at keyless
      cases keyless
    · rw [nonce] at asked
      cases asked
  · rw [trusted] at found
    cases found
    exact Or.inl ⟨accepts, judged⟩
  · exact Or.inr ⟨refused key trusted, failed⟩

end Verifier

end SignedResponse
