import Mathlib.Tactic.Common
import SignedResponse.Proofs.Signature.Binding
import SignedResponse.Proofs.Signature.Codec
import SignedResponse.Proofs.Signature.Validity
import SignedResponse.Proofs.Verification.Effects

/-!
The answer of a check, told by the bytes of the wire and by nothing that is cut out of them.

`verdict` has all conditions in one row. It names bytes by their places, so the layout, the order of
what is signed and the order in which faults are told are all stated here once more.
-/

namespace SignedResponse

namespace SignatureScheme

def verifiesBytes (scheme : SignatureScheme) (key message signature : List UInt8) : Bool :=
  match Block.ofList? 32 key, Block.ofList? 64 signature with
  | some key, some signature => scheme.verifies ⟨key⟩ message ⟨signature⟩
  | _, _ => false

def isKeyBytes (scheme : SignatureScheme) (key : List UInt8) : Bool :=
  match Block.ofList? 32 key with
  | some key => scheme.isPublicKey key
  | none => false

variable (scheme : SignatureScheme)

theorem verifies_bytes_of_blocks (key : Block 32) (message : List UInt8) (signature : Signature) :
    scheme.verifiesBytes key.bytes message signature.block.bytes =
      scheme.verifies ⟨key⟩ message signature := by
  simp only [verifiesBytes, Block.of_list_bytes]

theorem is_key_bytes_of_block (key : Block 32) :
    scheme.isKeyBytes key.bytes = scheme.isPublicKey key := by
  simp only [isKeyBytes, Block.of_list_bytes]

end SignatureScheme

def Instant.midnight (day : Nat) (reached : day ≤ 95026236) : Instant :=
  ⟨day * 86400, 0, (Expiration.representable_midnight_iff day).mpr reached⟩

namespace FullSignature

/-- The first reason to refuse these bytes as a signature for the parameters, if there is one. -/
def verdict (scheme : SignatureScheme) (root : PublicKey) (now : Instant) (parameters : Parameters)
    (bytes : List UInt8) : Except SignatureError Unit :=
  let day := LittleEndian.value (bytes.extract 32 36)
  let certified := bytes.extract 32 36 ++ bytes.extract 0 32
  let signed := bytes.extract 100 116 ++ (parameters.nonceBytes ++
    (Utf8.encode (Decimal.text parameters.requestDate.toNat) ++
      (parameters.etagBytes ++ parameters.messageBytes)))
  if bytes.length ≠ 180 then .error (.wrongSize bytes.length)
  else if ¬ scheme.verifiesBytes root.block.bytes certified (bytes.extract 36 100) then
    .error .untrustedKey
  else if dateless : day = 0 ∨ 95026236 < day then .error (.undatedKey day)
  else if day * 86400 ≤ now.seconds then .error (.expiredKey (.midnight day (by omega)))
  else if ¬ scheme.isKeyBytes (bytes.extract 0 32) then .error .untrustedKey
  else if ¬ scheme.verifiesBytes (bytes.extract 0 32) signed (bytes.extract 116 180) then
    .error .wrongPayload
  else .ok ()

theorem extract_bytes (signature : FullSignature) :
    signature.bytes.extract 0 32 = signature.certificate.key.bytes ∧
      signature.bytes.extract 32 36 = signature.certificate.expiration.block.bytes ∧
      signature.bytes.extract 36 100 = signature.certificate.signature.block.bytes ∧
      signature.bytes.extract 100 116 = signature.salt.bytes ∧
      signature.bytes.extract 116 180 = signature.payload.block.bytes := by
  simp [FullSignature.bytes, List.extract, List.drop_append, Block.length_eq,
    List.drop_of_length_le, List.take_of_length_le]

variable {scheme : SignatureScheme} {root : PublicKey} {now : Instant} {parameters : Parameters}

theorem dateless_iff {expiration : Expiration} :
    (expiration.days = 0 ∨ 95026236 < expiration.days) ↔ ¬ expiration.IsDated := by
  unfold Expiration.IsDated Expiration.lastDay
  omega

theorem verdict_bytes (signature : FullSignature) :
    verdict scheme root now parameters signature.bytes =
      if ¬ signature.certificate.IsSigned scheme root then .error .untrustedKey
      else if dateless : signature.certificate.expiration.days = 0 ∨
          95026236 < signature.certificate.expiration.days then
        .error (.undatedKey signature.certificate.expiration.days)
      else if signature.certificate.expiration.days * Instant.secondsPerDay ≤ now.seconds then
        .error (.expiredKey (.midnight signature.certificate.expiration.days (by omega)))
      else if ¬ scheme.isPublicKey signature.certificate.key then .error .untrustedKey
      else if ¬ scheme.verifies ⟨signature.certificate.key⟩
          (parameters.signedMessage signature.salt.bytes) signature.payload then
        .error .wrongPayload
      else .ok () := by
  obtain ⟨key, expiration, certificate, salt, payload⟩ := signature.extract_bytes
  simp only [verdict, key, expiration, certificate, salt, payload,
    SignatureScheme.verifies_bytes_of_blocks, SignatureScheme.is_key_bytes_of_block,
    Parameters.signed_message_eq_fields]
  exact if_neg (not_not.mpr signature.length_bytes_eq)

theorem check_eq_verdict (signature : FullSignature) :
    check scheme root now signature.base64 parameters =
      verdict scheme root now parameters signature.bytes := by
  rw [verdict_bytes]
  by_cases signed : signature.certificate.IsSigned scheme root
  · rw [if_neg (not_not.mpr signed)]
    by_cases dated : signature.certificate.expiration.IsDated
    · rw [dif_neg (mt dateless_iff.mp (not_not.mpr dated))]
      by_cases expired :
          signature.certificate.expiration.days * Instant.secondsPerDay ≤ now.seconds
      · rw [if_pos expired]
        apply check_of_refused
        apply Certificate.validate_of_expired signed _ expired
        exact Expiration.date_eq_some_iff.mpr ⟨dated, rfl, rfl⟩
      · rw [if_neg expired]
        have trusted := Certificate.validate_of_in_force signed ⟨dated, Int.not_le.mp expired⟩
        by_cases isKey : scheme.isPublicKey signature.certificate.key = true
        · rw [if_pos isKey] at trusted
          rw [if_neg (not_not.mpr isKey), check_of_trusted trusted, ite_not]
        · rw [if_neg isKey] at trusted
          rw [if_pos isKey]
          exact check_of_refused trusted
    · rw [dif_pos (dateless_iff.mpr dated)]
      exact check_of_refused (Certificate.validate_of_undated signed dated)
  · rw [if_pos signed]
    exact check_of_refused (Certificate.validate_of_unsigned signed)

/-- A text is either the standard form of no bytes, and refused as it is, or the bytes that it is
the form of give the answer. -/
theorem check_cases (scheme : SignatureScheme) (root : PublicKey) (now : Instant) (text : String)
    (parameters : Parameters) :
    ((∀ bytes, ¬ Base64.IsStandard text.toList bytes) ∧
        check scheme root now text parameters = .error (.notBase64 text)) ∨
      ∃ bytes, Base64.IsStandard text.toList bytes ∧
        check scheme root now text parameters = verdict scheme root now parameters bytes := by
  rcases of_base64_cases text with
    ⟨signature, form, read⟩ | ⟨bytes, form, wrong, read⟩ | ⟨formless, read⟩
  · refine Or.inr ⟨signature.bytes, form, ?_⟩
    rw [of_base64_eq_ok_iff.mp read]
    exact check_eq_verdict signature
  · refine Or.inr ⟨bytes, form, ?_⟩
    rw [check_of_unread read]
    exact (if_pos wrong).symm
  · exact Or.inl ⟨formless, check_of_unread read⟩

theorem check_ne_not_public_key (text : String) :
    check scheme root now text parameters ≠ .error .notPublicKey := by
  rcases check_cases scheme root now text parameters with ⟨-, answer⟩ | ⟨bytes, -, answer⟩
  · rw [answer]
    nofun
  · rw [answer, verdict]
    split_ifs <;> nofun

theorem run_verify {World : Type} (host : Host (StateM World)) (text : String) (world : World) :
    (verify scheme host root text parameters).run world =
      let asked := host.askIf (AsksTime scheme root text) world
      match check scheme root asked.1 text parameters with
      | .ok () => (true, asked.2)
      | .error error => (false, host.tell asked.2 [error.record]) := by
  rw [verify, run_check_by host.clock parameters (host.ask world).1, bind_map_left,
    Host.run_clock_if]
  generalize host.askIf (AsksTime scheme root text) world = asked
  dsimp only
  cases check scheme root asked.1 text parameters with
  | ok => rfl
  | error error => rfl

/-- A check answers with the first fault of a text: that it is no base64, or else the first fault of
the bytes that it is the standard form of, as the bytes and the parameters alone tell it. It never
calls a key invalid. Verification asks the clock if the certificate has to be compared with the
time, and gives the answer of the check; of a fault it tells the log the message at its level, once,
and otherwise it tells nothing. -/
theorem check_answers_first_fault (scheme : SignatureScheme) (root : PublicKey) (now : Instant)
    (text : String) (parameters : Parameters) :
    ((∀ bytes, ¬ Base64.IsStandard text.toList bytes) ∧
        check scheme root now text parameters = .error (.notBase64 text) ∨
      ∃ bytes, Base64.IsStandard text.toList bytes ∧
        check scheme root now text parameters = verdict scheme root now parameters bytes) ∧
      check scheme root now text parameters ≠ .error .notPublicKey ∧
      ∀ (World : Type) (host : Host (StateM World)) (world : World),
        let asked := host.askIf (AsksTime scheme root text) world
        (verify scheme host root text parameters).run world =
          match check scheme root asked.1 text parameters with
          | .ok () => (true, asked.2)
          | .error error => (false, host.tell asked.2 [⟨error.level, error.message⟩]) :=
  ⟨check_cases scheme root now text parameters, check_ne_not_public_key text,
    fun _ host world => run_verify host text world⟩

end FullSignature

end SignedResponse
