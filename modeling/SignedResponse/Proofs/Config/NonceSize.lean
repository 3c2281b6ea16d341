import SignedResponse.Crypto.Ed25519
import SignedResponse.Proofs.Config.Environment
import SignedResponse.Proofs.Config.Json
import SignedResponse.Proofs.Http.RequestNonce
import SignedResponse.Proofs.Text.Decimal
import SignedResponse.Proofs.Verification.Effects

/-!
The size of nonces, from the settings to the header that is sent.

The environment cannot turn nonces off, since it refuses the size zero. A document can: it is taken
at its word, and then requests have a nonce without bytes and send a header without text.
-/

namespace SignedResponse

open JsonShape (valuesOf)
open JsonValue (IsDocument)

namespace Config

variable {config : Config}

def GivesZero : JsonValue → Prop
  | .object members _ => ∃ value ∈ valuesOf members "nonce_size", IsSize value 0
  | .array items _ => ∃ value ∈ items[1]?.toList, IsSize value 0
  | _ => False

theorem is_size_unique (value : JsonValue) (left right : UInt64) (isLeft : IsSize value left)
    (isRight : IsSize value right) : left = right := by
  obtain ⟨literal, rfl, natural⟩ := isLeft
  obtain ⟨_, same, other⟩ := isRight
  cases same
  exact UInt64.toNat_inj.mp (natural.value.symm.trans other.value)

theorem nonce_size_eq_zero_iff {value : JsonValue} (given : Given value config) :
    config.nonceSize = 0 ↔ GivesZero value := by
  cases given with
  | object named parts => exact parts.nonceSize.eq_iff_of_ne is_size_unique (by decide)
  | array fits parts => exact parts.nonceSize.eq_iff_of_ne is_size_unique (by decide)

section Environment

variable {environment : Environment}

theorem nonce_size_pos_of_of_environment (accepted : ofEnvironment environment = .ok config) :
    0 < config.nonceSize := by
  rw [of_environment_eq] at accepted
  obtain ⟨mode, -, accepted⟩ := Except.bind_eq_ok_iff.mp accepted
  obtain ⟨size, given, same⟩ := Except.bind_eq_ok_iff.mp accepted
  cases same
  change 0 < size
  unfold nonceSizeOf at given
  split at given
  · cases given
    decide
  · split at given
    · rename_i text _ number read
      cases given
      obtain ⟨-, -, -, -, -, -, below, -⟩ := Decimal.exists_row_of_read (by decide) read
      rw [UInt64.lt_iff_toNat_lt, UInt64.toNat_ofNat_of_lt' below]
      exact Nat.succ_pos number
    · cases given

end Environment

end Config

theorem Base64.encode_text_ne_empty_iff {bytes : List UInt8} :
    encodeText bytes ≠ "" ↔ bytes ≠ [] := by
  rw [ne_eq, ne_eq, not_iff_not, eq_comm, ← decode_text_eq_some_iff]
  exact ⟨fun read => (Option.some.inj read).symm, fun empty => congrArg some empty.symm⟩

namespace Verifier

variable {m : Type → Type} {verifier : Verifier m}

theorem nonce_ne_nil_iff (nonce : Block verifier.config.nonceSize.toNat) :
    nonce.bytes ≠ [] ↔ 0 < verifier.config.nonceSize := by
  rw [← List.length_pos_iff, nonce.length_eq, UInt64.lt_iff_toNat_lt]
  rfl

/-- Where the size of nonces comes from, and what it does. Settings of an environment never have the
size zero; settings of a document have it when the document gives it. With a key in effect each
request has a nonce, and under a name that headers can have it sends the text of the nonce; neither
is empty, unless the size is zero. -/
theorem nonce_size_decides_requests (m : Type → Type) :
    (∀ environment config, Config.ofEnvironment environment = .ok config →
      0 < config.nonceSize) ∧
    (∀ text value config, IsDocument text.toList value → Config.ofJson text = .ok config →
      (config.nonceSize = 0 ↔ Config.GivesZero value)) ∧
    ∀ verifier : Verifier m, verifier.key.isSome = true → ∀ method path nonce,
      ∃ bytes, (verifier.createRequest method path nonce).nonce = some bytes ∧
        (bytes ≠ [] ↔ 0 < verifier.config.nonceSize) ∧
        ∀ name, HeaderName.IsSpelling name → ∃ headers text,
          (verifier.createRequest method path nonce).headers name = .ok headers ∧
            headers.IsOnly name text ∧ (text ≠ "" ↔ 0 < verifier.config.nonceSize) := by
  refine ⟨fun environment config => Config.nonce_size_pos_of_of_environment,
    fun text value config document accepted => ?_, fun verifier keyed method path nonce => ?_⟩
  · exact Config.nonce_size_eq_zero_iff ((Config.of_json_eq_ok_iff document).mp accepted)
  · have carried : (verifier.createRequest method path nonce).nonce = some nonce.bytes := by
      rw [createRequest, keyed]
      rfl
    refine ⟨nonce.bytes, carried, nonce_ne_nil_iff nonce, fun name spelling => ?_⟩
    obtain ⟨headers, sent, only⟩ := Request.headers_of_nonce carried spelling
    refine ⟨headers, _, sent, only, ?_⟩
    rw [Base64.encode_text_ne_empty_iff, nonce_ne_nil_iff]

def withoutNonces : String := "\x7b\"nonce_size\":0\x7d"

/-- With the settings of this document a request is made whose nonce has no bytes. The environment
is refused when it gives the same size. -/
theorem document_turns_nonces_off :
    Config.ofJson withoutNonces = .ok { nonceSize := 0 } ∧
      (let verifier := ofConfig ed25519 (.recording .sample) { nonceSize := 0 }
      let request := verifier.createRequest .get "/v1/health" ⟨[], rfl⟩
      verifier.key.isSome = true ∧ request.nonce = some [] ∧
        ∃ headers, request.headers "X-Nonce" = .ok headers ∧
          headers.text? "X-Nonce" = some "") ∧
      Config.ofEnvironment (.ofList [("RV_NONCE_SIZE", [0x30])]) = .error (.nonceSize "0") := by
  exact ⟨Except.eq_ok_of_to_option (by decide +kernel), ⟨rfl, rfl, _, rfl, by decide⟩,
    by decide⟩

theorem sizes_of_both_sources :
    0 < ({ nonceSize := 16 } : Config).nonceSize ∧
      Config.GivesZero (.object [(some "nonce_size", .number (.ofNatural 0))] true) ∧
      let verifier := ofConfig ed25519 (.recording .sample) { nonceSize := 0 }
      ∃ headers text,
        (verifier.createRequest .get "/v1/health" ⟨[], rfl⟩).headers "X-Nonce" = .ok headers ∧
          headers.IsOnly "X-Nonce" text ∧ text = "" := by
  obtain ⟨environments, documents, requests⟩ := nonce_size_decides_requests (StateM Journal)
  have environment : Config.ofEnvironment (.ofList [("RV_NONCE_SIZE", [0x31, 0x36])]) =
      .ok { nonceSize := 16 } := by decide
  have document : IsDocument withoutNonces.toList
      (.object [(some "nonce_size", .number (.ofNatural 0))] true) :=
    JsonValue.read_document_eq_iff.mp (by decide +kernel)
  have accepted : Config.ofJson withoutNonces = .ok { nonceSize := 0 } :=
    Except.eq_ok_of_to_option (by decide +kernel)
  refine ⟨environments _ _ environment, (documents _ _ _ document accepted).mp rfl, ?_⟩
  obtain ⟨bytes, carried, -, sent⟩ := requests
    (ofConfig ed25519 (.recording .sample) { nonceSize := 0 }) rfl .get "/v1/health" ⟨[], rfl⟩
  obtain ⟨headers, text, sends, only, filled⟩ := sent "X-Nonce" (by decide)
  refine ⟨headers, text, sends, only, ?_⟩
  by_contra some
  exact absurd (filled.mp some) (by decide)

end Verifier

end SignedResponse
