import Mathlib.Tactic.Common
import SignedResponse.Crypto.Ed25519
import SignedResponse.Proofs.Signature.HonestSigner
import SignedResponse.Proofs.Verification.Effects
import SignedResponse.Proofs.Verification.Respond

/-!
An exchange with an honest server is verified until the midnight at which its certificate ends.

Signer and verifier meet only in three header texts, so what has to agree is the layout of the
signature, base64, the decimal date, the entity tag and the rule for responses without a message.
-/

namespace SignedResponse

namespace Verifier

variable {m : Type → Type} {verifier : Verifier m} {response : Response} {parameters : Parameters}

theorem judge_of_carries {key : PublicKey} {now : Instant} {request : Request}
    {signature : FullSignature} (trusted : verifier.key = some key)
    (nonce : parameters.nonce = request.nonce)
    (message : parameters.message = if response.status = .notModified then none else response.body)
    (plain : ∀ tag ∈ parameters.etag, ∀ char ∈ tag.toList, IsPlain char)
    (carries : response.Carries verifier.config.headers signature parameters) :
    verifier.judge now request response =
      .ofCheck (FullSignature.check verifier.scheme key now signature.base64 parameters) := by
  obtain ⟨carried, dated, rebuilt⟩ := read_of_carries nonce message plain carries
  rw [judge_of_signed trusted carried dated, rebuilt]

theorem asks_time_of_carries {key : PublicKey} {request : Request} {signature : FullSignature}
    (trusted : verifier.key = some key) (nonce : parameters.nonce = request.nonce)
    (message : parameters.message = if response.status = .notModified then none else response.body)
    (plain : ∀ tag ∈ parameters.etag, ∀ char ∈ tag.toList, IsPlain char)
    (carries : response.Carries verifier.config.headers signature parameters) :
    verifier.AsksTime response ↔ signature.certificate.AsksTime verifier.scheme key := by
  obtain ⟨carried, dated, -⟩ := read_of_carries nonce message plain carries
  have read : FullSignature.ofBase64 signature.base64 = .ok signature :=
    FullSignature.of_base64_base64 signature
  have ruled : verifier.rule request response = _ := rule_of_signed trusted carried dated
  rw [← FullSignature.asks_time_of_read read]
  exact asks_time_of_check ruled

variable {World : Type}

/-- A response that carries what a certified signer made for this exchange is verified, with nothing
logged, while the certificate has a date that is still to come. Otherwise it fails, and the one
diagnostic is a warning that tells the day count or the midnight. The clock is asked if there is a
date. -/
theorem honest_exchange (scheme : SignatureScheme) (host : Host (StateM World)) (config : Config)
    (enabled : config.mode ≠ .disabled) (root key : PrivateKey) (expiration : Expiration)
    (request : Request) (response : Response) (parameters : Parameters) (salt : Block 16)
    (nonce : parameters.nonce = request.nonce)
    (message : parameters.message = if response.status = .notModified then none else response.body)
    (plain : ∀ tag ∈ parameters.etag, ∀ char ∈ tag.toList, IsPlain char)
    (certified : scheme.HonestOn root
      (Certificate.signedMessage (scheme.publicKey key).block expiration))
    (signed : scheme.HonestOn key (parameters.signedMessage salt.bytes))
    (carries : response.Carries config.headers
      ((Signer.certified scheme root key expiration).sign scheme parameters salt) parameters)
    (world : World) :
    let verifier := (ofConfig scheme host config).withKey (some (scheme.publicKey root))
    let asked := host.ask world
    let run := (verifier.outcome request response).run world
    (expiration.InForce asked.1 → run = (.verified, asked.2)) ∧
      (¬ expiration.IsDated → run = (.failed, host.tell world
        [⟨.warn, "Intermediate key invalid: " ++ Decimal.text expiration.days⟩])) ∧
      (expiration.IsDated → ¬ expiration.InForce asked.1 → ∃ midnight : Instant,
        midnight.seconds = expiration.days * Instant.secondsPerDay ∧ midnight.nanoseconds = 0 ∧
          run = (.failed, host.tell asked.2
            [⟨.warn, "Intermediate key expired: " ++ midnight.text⟩])) := by
  intro verifier asked run
  have trusted : verifier.key = some (scheme.publicKey root) := by
    have isEnabled : config.mode.isEnabled = true := by
      cases mode : config.mode with
      | disabled => exact absurd mode enabled
      | informational => rfl
      | enforced => rfl
    exact if_pos isEnabled
  let signature := (Signer.certified scheme root key expiration).sign scheme parameters salt
  have judged : verifier.judge asked.1 request response =
      .ofCheck (FullSignature.check scheme (scheme.publicKey root) asked.1 signature.base64
        parameters) :=
    judge_of_carries trusted nonce message plain carries
  have asks : verifier.AsksTime response ↔ expiration.IsDated :=
    (asks_time_of_carries trusted nonce message plain carries).trans
      (and_iff_right (Signer.is_signed_certificate certified))
  have ran : run = ((verifier.judge asked.1 request response).outcome,
      host.tell (if verifier.AsksTime response then asked.2 else world)
        (verifier.judge asked.1 request response).diagnostic.toList) :=
    run_outcome verifier request response world
  rw [judged] at ran
  refine ⟨fun inForce => ?_, fun undated => ?_, fun dated notInForce => ?_⟩
  · rw [ran, Signer.check_sign_of_in_force certified signed inForce, if_pos (asks.mpr inForce.1)]
    rfl
  · rw [ran, Signer.check_sign_of_undated certified undated, if_neg (mt asks.mp undated)]
    rfl
  · cases found : expiration.date? with
    | none => exact absurd dated (Expiration.date_eq_none_iff.mp found)
    | some midnight =>
        obtain ⟨-, seconds, nanoseconds⟩ := Expiration.date_eq_some_iff.mp found
        have expired := Int.not_lt.mp fun toCome => notInForce ⟨dated, toCome⟩
        refine ⟨midnight, seconds, nanoseconds, ?_⟩
        rw [ran, Signer.check_sign_of_expired certified found expired, if_pos (asks.mpr dated)]
        rfl

/-- A health check at the sample moment, answered under a certificate that ends five days later. -/
theorem honest_exchange_health :
    let root : PrivateKey := ⟨Block.replicate 32 1⟩
    let signer := Signer.certified ed25519 root ⟨Block.replicate 32 2⟩ (.ofDays 19797)
    let request : Request := ⟨.get, "/v1/health", some (List.replicate 12 7)⟩
    let parameters : Parameters :=
      { message := some [0x22, 0x22], nonce := request.nonce, etag := some "5a",
        requestDate := 1710072000000 }
    ∃ response, signer.respond ed25519 {} .ok parameters (Block.replicate 16 3) = .ok response ∧
      (((ofConfig ed25519 (.recording .sample) {}).withKey
        (some (ed25519.publicKey root))).outcome request response).run .empty =
          (.verified, .empty) := by
  intro root signer request parameters
  have plain : ∀ tag ∈ parameters.etag, ∀ char ∈ tag.toList, IsPlain char := by
    rintro tag ⟨⟩ char member
    have all : "5a".toList.all (fun char => decide (IsPlain char)) = true := by decide
    exact of_decide_eq_true (List.all_eq_true.mp all char member)
  obtain ⟨_, _, _, separate⟩ := HeaderNames.separate_default
  obtain ⟨response, made, status, body, carries⟩ :=
    Signer.respond_carries ed25519 signer .ok parameters (Block.replicate 16 3) separate plain
  refine ⟨response, made, ?_⟩
  exact (honest_exchange ed25519 (.recording .sample) {} (by decide) root _ (.ofDays 19797) request
    response parameters (Block.replicate 16 3) rfl (by rw [status, body]; rfl) plain
    (by decide +kernel) (by decide +kernel) carries .empty).1 (by decide)

end Verifier

end SignedResponse
