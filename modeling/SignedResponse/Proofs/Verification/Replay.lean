import Mathlib.Tactic.Common
import SignedResponse.Crypto.Ed25519
import SignedResponse.Proofs.Signature.Coverage
import SignedResponse.Proofs.Signature.Validity
import SignedResponse.Proofs.Verification.Effects
import SignedResponse.Proofs.Verification.Respond

/-!
A captured signature beside another date.

What the payload signature is checked against is read off the response. Another date changes it
unless digits of the date and of what follows the date trade places.
-/

namespace SignedResponse

namespace Verifier

variable {m : Type → Type} {verifier : Verifier m} {request : Request} {response : Response}

/-- The bytes that the payload signature of a response is checked against, if its signature and its
date are readable. -/
def checkedBytes? (verifier : Verifier m) (request : Request) (response : Response) :
    Option (List UInt8) := do
  let text ← response.header verifier.config.headers.signature
  let signature ← (FullSignature.ofBase64 text).toOption
  let parameters ← verifier.parameters? request response
  return parameters.signedMessage signature.salt.bytes

theorem checked_bytes_eq_some_iff {bytes : List UInt8} :
    verifier.checkedBytes? request response = some bytes ↔
      ∃ (signature : FullSignature) (requestDate : UInt64),
        response.header verifier.config.headers.signature = some signature.base64 ∧
          verifier.requestDate? response = some requestDate ∧
            (verifier.signedParameters request response requestDate).signedMessage
              signature.salt.bytes = bytes := by
  constructor
  · intro checked
    rw [checkedBytes?, parameters_eq_map] at checked
    obtain ⟨text, carried, checked⟩ := Option.bind_eq_some_iff.mp checked
    obtain ⟨signature, read, checked⟩ := Option.bind_eq_some_iff.mp checked
    obtain ⟨parameters, rebuilt, same⟩ := Option.bind_eq_some_iff.mp checked
    obtain ⟨requestDate, dated, rfl⟩ := Option.map_eq_some_iff.mp rebuilt
    have accepted : FullSignature.ofBase64 text = .ok signature := by
      cases answer : FullSignature.ofBase64 text with
      | ok found =>
          rw [answer] at read
          exact congrArg Except.ok (Option.some.inj read)
      | error error =>
          rw [answer] at read
          cases read
    rw [FullSignature.of_base64_eq_ok_iff.mp accepted] at carried
    exact ⟨signature, requestDate, carried, dated, Option.some.inj same⟩
  · rintro ⟨signature, requestDate, carried, dated, rfl⟩
    rw [checkedBytes?, carried, parameters_eq_map, dated]
    simp only [Option.bind_eq_bind, Option.bind_some, FullSignature.of_base64_base64]
    rfl

theorem checked_bytes_of_accepts {key : PublicKey} {now : Instant}
    (accepts : verifier.Accepts key now request response) :
    ∃ (signature : FullSignature) (bytes : List UInt8),
      response.header verifier.config.headers.signature = some signature.base64 ∧
        verifier.checkedBytes? request response = some bytes ∧
          verifier.scheme.verifies ⟨signature.certificate.key⟩ bytes signature.payload = true := by
  obtain ⟨text, requestDate, carried, dated, accepted⟩ := accepts
  obtain ⟨signature, rfl, certified, trusted, verified⟩ := FullSignature.check_eq_ok_iff.mp accepted
  obtain ⟨-, -, -, rfl⟩ := Certificate.validate_eq_ok_iff.mp trusted
  refine ⟨signature, _, carried, checked_bytes_eq_some_iff.mpr ?_, verified⟩
  exact ⟨signature, requestDate, carried, dated, rfl⟩

theorem checked_bytes_of_carries {signature : FullSignature} {parameters : Parameters}
    (nonce : parameters.nonce = request.nonce)
    (message : parameters.message = if response.status = .notModified then none else response.body)
    (plain : ∀ tag ∈ parameters.etag, ∀ char ∈ tag.toList, IsPlain char)
    (carries : response.Carries verifier.config.headers signature parameters) :
    verifier.checkedBytes? request response =
      some (parameters.signedMessage signature.salt.bytes) := by
  obtain ⟨carried, dated, rebuilt⟩ := read_of_carries nonce message plain carries
  refine checked_bytes_eq_some_iff.mpr ⟨signature, parameters.requestDate, carried, dated, ?_⟩
  rw [rebuilt]

/-- What is signed for two dates under one nonce and one salt is the same exactly when digits of the
longer date stand at the start of what follows the shorter one. It is different when the dates have
equally many digits or equally many bytes follow them. The same holds of what a verifier checks one
signature against beside two dates, whatever else the two responses are made of. -/
theorem altered_date_signed_apart :
    (∀ (left right : Parameters) (salt : Block 16), left.nonce = right.nonce →
      left.requestDate ≠ right.requestDate →
        (left.signedMessage salt.bytes = right.signedMessage salt.bytes ↔
          left.Absorbs right ∨ right.Absorbs left) ∧
        (left.Aligned right → left.signedMessage salt.bytes ≠ right.signedMessage salt.bytes)) ∧
      ∀ (m : Type → Type) (verifier : Verifier m) (request : Request) (first second : Response)
        (firstDate secondDate : UInt64) (firstBytes secondBytes : List UInt8),
        first.header verifier.config.headers.signature =
          second.header verifier.config.headers.signature →
        verifier.requestDate? first = some firstDate →
        verifier.requestDate? second = some secondDate → firstDate ≠ secondDate →
        verifier.checkedBytes? request first = some firstBytes →
        verifier.checkedBytes? request second = some secondBytes →
          let left := verifier.signedParameters request first firstDate
          let right := verifier.signedParameters request second secondDate
          (firstBytes = secondBytes ↔ left.Absorbs right ∨ right.Absorbs left) ∧
            (left.Aligned right → firstBytes ≠ secondBytes) := by
  refine ⟨?_, ?_⟩
  · intro left right salt nonce different
    exact ⟨Parameters.signed_alike_iff nonce different, Parameters.signed_apart nonce different⟩
  · intro m verifier request first second firstDate secondDate firstBytes secondBytes carried
      firstDated secondDated different firstChecked secondChecked left right
    obtain ⟨signature, _, firstCarried, firstRead, rfl⟩ := checked_bytes_eq_some_iff.mp firstChecked
    obtain ⟨other, _, secondCarried, secondRead, rfl⟩ := checked_bytes_eq_some_iff.mp secondChecked
    rw [firstDated, Option.some.injEq] at firstRead
    rw [secondDated, Option.some.injEq] at secondRead
    rw [firstCarried, secondCarried, Option.some.injEq] at carried
    have sameSignature := FullSignature.base64_injective carried
    subst firstRead secondRead sameSignature
    have nonce : left.nonce = right.nonce := rfl
    exact ⟨Parameters.signed_alike_iff nonce different, Parameters.signed_apart nonce different⟩

/-- One millisecond later, the signature of a health check is checked against other bytes. -/
theorem health_check_signed_apart :
    let verifier := ofConfig ed25519 (.recording .sample) {}
    let request : Request := ⟨.get, "/v1/health", some (List.replicate 12 7)⟩
    let signature : FullSignature := ⟨⟨.replicate 32 1, .ofDays 19797, ⟨.replicate 64 2⟩⟩,
      .replicate 16 3, ⟨.replicate 64 4⟩⟩
    let parameters : Parameters :=
      { message := some [0x22, 0x22], nonce := request.nonce, requestDate := 1710072000000 }
    let later : Parameters := { parameters with requestDate := 1710072000001 }
    parameters.signedMessage signature.salt.bytes ≠ later.signedMessage signature.salt.bytes ∧
      ∃ headers laterHeaders, Signer.headers {} parameters signature = .ok headers ∧
        Signer.headers {} later signature = .ok laterHeaders ∧
          ∃ bytes laterBytes,
            verifier.checkedBytes? request ⟨.ok, headers, parameters.message⟩ = some bytes ∧
            verifier.checkedBytes? request ⟨.ok, laterHeaders, later.message⟩ = some laterBytes ∧
            bytes ≠ laterBytes := by
  intro verifier request signature parameters later
  obtain ⟨sameNonce, sameRequest⟩ := altered_date_signed_apart
  have different : parameters.requestDate ≠ later.requestDate := by decide
  have digits : (Decimal.digits parameters.requestDate.toNat).length =
      (Decimal.digits later.requestDate.toNat).length := by decide
  refine ⟨(sameNonce parameters later signature.salt rfl different).2 (Or.inl digits), ?_⟩
  obtain ⟨_, _, _, separate⟩ := HeaderNames.separate_default
  have served : ∀ given : Parameters, given.etag = none → given.nonce = request.nonce →
      ∃ headers, Signer.headers {} given signature = .ok headers ∧
        (Response.mk .ok headers given.message).Carries {} signature given ∧
        verifier.checkedBytes? request ⟨.ok, headers, given.message⟩ =
          some (given.signedMessage signature.salt.bytes) := by
    intro given untagged nonce
    have plain : ∀ tag ∈ given.etag, ∀ char ∈ tag.toList, IsPlain char := by
      rw [untagged]
      exact nofun
    obtain ⟨headers, made, carries⟩ :=
      Signer.headers_of_separate given signature separate plain
    exact ⟨headers, made, carries _ _,
      checked_bytes_of_carries nonce rfl plain (carries .ok given.message)⟩
  obtain ⟨headers, made, carries, checked⟩ := served parameters rfl rfl
  obtain ⟨laterHeaders, laterMade, laterCarries, laterChecked⟩ := served later rfl rfl
  refine ⟨headers, laterHeaders, made, laterMade, _, _, checked, laterChecked, ?_⟩
  have signatures : (Response.mk .ok headers parameters.message).header "X-Signature" =
      (Response.mk .ok laterHeaders later.message).header "X-Signature" := by
    have plain : ∀ char ∈ signature.base64.toList, IsPlain char :=
      fun _ member => plain_of_mem_base64 member
    rw [Response.header, Response.header, Headers.text_of_plain plain carries.signature,
      Headers.text_of_plain plain laterCarries.signature]
  exact (sameRequest _ verifier request _ _ _ _ _ _ signatures
    (request_date_of_first carries.requestDate) (request_date_of_first laterCarries.requestDate)
    different checked laterChecked).2 (Or.inl digits)

end Verifier

end SignedResponse
