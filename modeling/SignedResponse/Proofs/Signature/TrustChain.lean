import Mathlib.Data.Set.Insert
import SignedResponse.Crypto.Ed25519
import SignedResponse.Proofs.Signature.Validity
import SignedResponse.Signature.RootKey

/-!
What an accepted signature text proves, when nothing verifies that was not issued.

The certificate covers the first 100 bytes except itself, and the payload signature covers salt and
parameters; each of the two is part of what was issued. So no byte of an accepted text is free.
-/

namespace SignedResponse

/-- All that was ever signed: certificates with the root key, and messages with each certified
key. -/
structure Issued where
  certificates : Set Certificate
  payloads : Block 32 → Set (List UInt8 × Signature)

/-- The root key verifies no signature but those on issued certificates, and a certified key none
but those that it made. -/
structure Issued.Unforged (issued : Issued) (scheme : SignatureScheme) (root : PublicKey) :
    Prop where
  certificate : ∀ message signature, scheme.verifies root message signature = true →
    ∃ certificate ∈ issued.certificates,
      message = Certificate.signedMessage certificate.key certificate.expiration ∧
        signature = certificate.signature
  payload : ∀ certificate ∈ issued.certificates, ∀ message signature,
    scheme.verifies ⟨certificate.key⟩ message signature = true →
      (message, signature) ∈ issued.payloads certificate.key

namespace SignatureScheme

/-- The scheme without its forgeries: of all that it verifies, what was signed is left. -/
def restrictedTo (scheme : SignatureScheme) (signed : List (PublicKey × List UInt8 × Signature)) :
    SignatureScheme :=
  { scheme with
    verifies := fun key message signature =>
      signed.contains (key, message, signature) && scheme.verifies key message signature }

theorem verifies_restricted_to_iff {scheme : SignatureScheme}
    {signed : List (PublicKey × List UInt8 × Signature)} {key : PublicKey} {message : List UInt8}
    {signature : Signature} :
    (scheme.restrictedTo signed).verifies key message signature = true ↔
      (key, message, signature) ∈ signed ∧ scheme.verifies key message signature = true := by
  simp only [restrictedTo, Bool.and_eq_true, List.contains_iff_mem]

end SignatureScheme

variable {scheme : SignatureScheme} {root : PublicKey} {now : Instant} {issued : Issued}

namespace Certificate

theorem eq_of_same_message {left right : Certificate}
    (message : signedMessage left.key left.expiration = signedMessage right.key right.expiration)
    (signature : left.signature = right.signature) : left = right := by
  obtain ⟨leftKey, ⟨leftExpiration⟩, leftSignature⟩ := left
  obtain ⟨rightKey, ⟨rightExpiration⟩, rightSignature⟩ := right
  obtain ⟨expiration, key⟩ := Block.append_inj message
  cases expiration
  cases Block.eq_of_bytes_eq key
  cases signature
  rfl

theorem mem_of_is_signed {certificate : Certificate} (unforged : issued.Unforged scheme root)
    (signed : certificate.IsSigned scheme root) : certificate ∈ issued.certificates := by
  obtain ⟨found, member, message, signature⟩ := unforged.certificate _ _ signed
  rw [eq_of_same_message message signature]
  exact member

end Certificate

namespace FullSignature

variable {signature honest : FullSignature} {parameters : Parameters} {text : String}

theorem take_bytes (signature : FullSignature) :
    signature.bytes.take 100 = signature.certificate.key.bytes ++
      signature.certificate.expiration.block.bytes ++
        signature.certificate.signature.block.bytes := by
  have size : (signature.certificate.key.bytes ++ signature.certificate.expiration.block.bytes ++
      signature.certificate.signature.block.bytes).length = 100 := by
    simp only [List.length_append, Block.length_eq]
  rw [FullSignature.bytes, List.append_assoc _ signature.salt.bytes]
  exact List.take_left' size

theorem certificate_eq_iff {left right : FullSignature} :
    left.certificate = right.certificate ↔ left.bytes.take 100 = right.bytes.take 100 := by
  constructor
  · intro same
    rw [take_bytes, take_bytes, same]
  · intro same
    rw [take_bytes, take_bytes] at same
    obtain ⟨⟨leftKey, ⟨leftExpiration⟩, ⟨leftSignature⟩⟩, leftSalt, leftPayload⟩ := left
    obtain ⟨⟨rightKey, ⟨rightExpiration⟩, ⟨rightSignature⟩⟩, rightSalt, rightPayload⟩ := right
    simp only [List.append_assoc] at same
    obtain ⟨key, same⟩ := Block.append_inj same
    obtain ⟨expiration, signature⟩ := Block.append_inj same
    cases key
    cases expiration
    cases Block.eq_of_bytes_eq signature
    rfl

/-- An accepted signature was put together from one issued certificate that is in force and from a
payload that its key issued for these parameters. -/
theorem issued_of_check (unforged : issued.Unforged scheme root)
    (accepted : check scheme root now text parameters = .ok ()) :
    ∃ signature : FullSignature, text = signature.base64 ∧
      signature.certificate ∈ issued.certificates ∧
        signature.certificate.expiration.InForce now ∧
          (parameters.signedMessage signature.salt.bytes, signature.payload) ∈
            issued.payloads signature.certificate.key := by
  obtain ⟨signature, same, key, trusted, verified⟩ := check_eq_ok_iff.mp accepted
  obtain ⟨signed, inForce, -, rfl⟩ := Certificate.validate_eq_ok_iff.mp trusted
  have member := Certificate.mem_of_is_signed unforged signed
  exact ⟨signature, same, member, inForce, unforged.payload _ member _ _ verified⟩

theorem check_of_unissued (unforged : issued.Unforged scheme root)
    (unissued : signature.certificate ∉ issued.certificates) :
    check scheme root now signature.base64 parameters = .error .untrustedKey :=
  check_of_refused (Certificate.validate_of_unsigned fun signed =>
    unissued (Certificate.mem_of_is_signed unforged signed))

theorem check_of_same_certificate
    (accepted : check scheme root now honest.base64 parameters = .ok ())
    (same : signature.certificate = honest.certificate)
    (refused : check scheme root now signature.base64 parameters ≠ .ok ()) :
    check scheme root now signature.base64 parameters = .error .wrongPayload := by
  obtain ⟨found, text, key, trusted, -⟩ := check_eq_ok_iff.mp accepted
  rw [← base64_injective text, ← same] at trusted
  rw [check_of_trusted trusted] at refused ⊢
  split_ifs at refused ⊢ with verified
  · exact absurd rfl refused
  · rfl

/-- When one certificate and one payload were issued, no other text than theirs is accepted. -/
theorem eq_of_check_of_single (unforged : issued.Unforged scheme root)
    (certificates : issued.certificates = {honest.certificate})
    (payloads : issued.payloads honest.certificate.key =
      {(parameters.signedMessage honest.salt.bytes, honest.payload)})
    (accepted : check scheme root now text parameters = .ok ()) : text = honest.base64 := by
  -- The certificate and the payload are the issued ones, so only the salt could still differ; but
  -- the issued message starts with it.
  obtain ⟨signature, rfl, member, -, signed⟩ := issued_of_check unforged accepted
  rw [certificates, Set.mem_singleton_iff] at member
  rw [member, payloads, Set.mem_singleton_iff, Prod.mk.injEq] at signed
  obtain ⟨salt, -⟩ := Block.append_inj signed.1
  obtain ⟨certificate, ownSalt, payload⟩ := signature
  cases member
  cases salt
  cases signed.2
  rfl

/-- Let nothing verify but what was issued. Then an accepted text is that of one issued certificate
in force and of a payload that the same key issued for the same parameters. When one certificate and
one payload were issued, the honest text alone can be accepted, and the byte in which another text
departs from it decides how that one is refused. -/
theorem trust_chain_sound (scheme : SignatureScheme) (root : PublicKey) (issued : Issued)
    (unforged : issued.Unforged scheme root) (now : Instant) :
    (∀ text parameters, check scheme root now text parameters = .ok () →
      ∃ certificate ∈ issued.certificates, ∃ (salt : Block 16) (payload : Signature),
        text = Base64.encodeText (certificate.key.bytes ++ certificate.expiration.block.bytes ++
          certificate.signature.block.bytes ++ salt.bytes ++ payload.block.bytes) ∧
        certificate.expiration.InForce now ∧
        (parameters.signedMessage salt.bytes, payload) ∈ issued.payloads certificate.key) ∧
      ∀ (honest : FullSignature) (parameters : Parameters),
        issued.certificates = {honest.certificate} →
        issued.payloads honest.certificate.key =
          {(parameters.signedMessage honest.salt.bytes, honest.payload)} →
        (honest.certificate.IsSigned scheme root → honest.certificate.expiration.InForce now →
          scheme.isPublicKey honest.certificate.key = true →
          scheme.verifies ⟨honest.certificate.key⟩ (parameters.signedMessage honest.salt.bytes)
            honest.payload = true →
          check scheme root now honest.base64 parameters = .ok ()) ∧
        ∀ text, text ≠ honest.base64 →
          (∃ error, check scheme root now text parameters = .error error) ∧
          (Base64.decodeText text = none →
            check scheme root now text parameters = .error (.notBase64 text)) ∧
          ∀ bytes, Base64.decodeText text = some bytes →
            (bytes.length ≠ 180 →
              check scheme root now text parameters = .error (.wrongSize bytes.length)) ∧
            (bytes.length = 180 → bytes.take 100 ≠ honest.bytes.take 100 →
              check scheme root now text parameters = .error .untrustedKey) ∧
            (bytes.length = 180 → bytes.take 100 = honest.bytes.take 100 →
              check scheme root now honest.base64 parameters = .ok () →
              check scheme root now text parameters = .error .wrongPayload) := by
  refine ⟨?_, ?_⟩
  · intro text parameters accepted
    obtain ⟨signature, same, member, inForce, signed⟩ := issued_of_check unforged accepted
    exact ⟨_, member, signature.salt, signature.payload, same, inForce, signed⟩
  · intro honest parameters certificates payloads
    refine ⟨?_, ?_⟩
    · intro genuine inForce isKey verified
      exact check_eq_ok_iff.mpr ⟨honest, rfl, _,
        Certificate.validate_eq_ok_iff.mpr ⟨genuine, inForce, isKey, rfl⟩, verified⟩
    · intro text other
      have refused : check scheme root now text parameters ≠ .ok () := fun accepted =>
        other (eq_of_check_of_single unforged certificates payloads accepted)
      refine ⟨?_, check_of_not_base64, fun bytes decoded => ⟨check_of_wrong_size decoded, ?_, ?_⟩⟩
      · cases answer : check scheme root now text parameters with
        | ok => exact absurd answer refused
        | error error => exact ⟨error, rfl⟩
      · intro complete departs
        obtain ⟨signature, rfl, rfl⟩ := exists_of_decoded decoded complete
        refine check_of_unissued unforged fun member => departs ?_
        rw [certificates, Set.mem_singleton_iff] at member
        exact certificate_eq_iff.mp member
      · intro complete same accepted
        obtain ⟨signature, rfl, rfl⟩ := exists_of_decoded decoded complete
        exact check_of_same_certificate accepted (certificate_eq_iff.mpr same) refused

def capturedHealth : FullSignature where
  certificate :=
    { key := ⟨
        [0x5D, 0x7F, 0x0C, 0x87, 0xC0, 0xD3, 0x72, 0xA3, 0xC2, 0xE4, 0x0E, 0x3C, 0x9E, 0x77, 0x11,
         0x53, 0x78, 0x43, 0x90, 0xBF, 0xEF, 0xDD, 0xB6, 0xB1, 0xC6, 0xA2, 0xC8, 0x5A, 0x75, 0x89,
         0xCE, 0x0D], rfl⟩
      expiration := .ofDays 19565
      signature := ⟨⟨
        [0xEE, 0x89, 0x34, 0x89, 0x7B, 0xA9, 0x4F, 0x66, 0xE3, 0x8E, 0xEF, 0xC1, 0x48, 0x75, 0x66,
         0x83, 0x17, 0x34, 0x5E, 0x2C, 0x13, 0x65, 0x70, 0x66, 0xB0, 0x6B, 0x96, 0x11, 0x76, 0xBD,
         0x96, 0xCC, 0xA8, 0x16, 0x2F, 0x47, 0x30, 0x5E, 0x1A, 0x00, 0x83, 0xAC, 0xE1, 0x8F, 0xA5,
         0x60, 0x4D, 0xA2, 0xE1, 0x44, 0x89, 0x08, 0xFE, 0xDE, 0xBF, 0x4E, 0xD0, 0x66, 0x4E, 0xC3,
         0xD9, 0xBE, 0x99, 0x05], rfl⟩⟩ }
  salt := ⟨
    [0x52, 0x1C, 0x7E, 0xFF, 0xA4, 0x3A, 0x4D, 0x26, 0x99, 0xF2, 0x36, 0xDA, 0x8D, 0xD9, 0x21,
     0xDD], rfl⟩
  payload := ⟨⟨
    [0xF5, 0x9B, 0xCF, 0x26, 0x54, 0x6D, 0x81, 0xA8, 0xF3, 0xD0, 0xA4, 0xD7, 0xF2, 0x41, 0x88,
     0xE6, 0xC2, 0x3C, 0xA6, 0x83, 0x4D, 0x16, 0xAA, 0x54, 0x87, 0x63, 0x66, 0x2A, 0x82, 0xAD,
     0xB4, 0x7C, 0xAD, 0x30, 0x11, 0xD1, 0xBC, 0x44, 0x32, 0x44, 0xAA, 0xC3, 0x0E, 0x3C, 0xEA,
     0x3D, 0xDE, 0x43, 0xBE, 0xC0, 0x6B, 0xE5, 0x90, 0xEB, 0xE5, 0x12, 0xA3, 0x05, 0xDF, 0xDB,
     0xD7, 0xB4, 0xE3, 0x08], rfl⟩⟩

/-- The captured signature as all that was ever issued: it is accepted, with another salt its
payload is wrong, and without its date its key is untrusted. -/
theorem captured_health_tamper_evident :
    let honest := capturedHealth
    let parameters : Parameters :=
      { message := some [0x22, 0x22, 0x0A]
        nonce := some [0x31, 0x32, 0x33, 0x34, 0x35, 0x36, 0x37, 0x38, 0x39, 0x30, 0x61, 0x62]
        requestDate := 1688066733210 }
    let scheme := ed25519.restrictedTo
      [(.root, Certificate.signedMessage honest.certificate.key honest.certificate.expiration,
        honest.certificate.signature),
      (⟨honest.certificate.key⟩, parameters.signedMessage honest.salt.bytes, honest.payload)]
    let now : Instant := ⟨1688066733, 210000000, by decide⟩
    check scheme .root now honest.base64 parameters = .ok () ∧
      check scheme .root now { honest with salt := .replicate 16 0 }.base64 parameters =
        .error .wrongPayload ∧
      check scheme .root now { honest with certificate.expiration := .undated }.base64 parameters =
        .error .untrustedKey := by
  intro honest parameters scheme now
  have apart : PublicKey.root ≠ ⟨honest.certificate.key⟩ := by decide
  let issued : Issued :=
    ⟨{honest.certificate}, fun _ => {(parameters.signedMessage honest.salt.bytes, honest.payload)}⟩
  have unforged : issued.Unforged scheme .root := by
    constructor
    · intro message signature verified
      have listed := (SignatureScheme.verifies_restricted_to_iff.mp verified).1
      simp only [List.mem_cons, Prod.mk.injEq, apart, false_and, true_and, List.not_mem_nil,
        or_false] at listed
      exact ⟨honest.certificate, rfl, listed⟩
    · rintro certificate rfl message signature verified
      have listed := (SignatureScheme.verifies_restricted_to_iff.mp verified).1
      simp only [List.mem_cons, Prod.mk.injEq, apart.symm, false_and, true_and, List.not_mem_nil,
        or_false, false_or] at listed
      exact Prod.ext listed.1 listed.2
  obtain ⟨accepts, others⟩ :=
    (trust_chain_sound scheme .root issued unforged now).2 honest parameters rfl rfl
  have accepted := accepts (by decide +kernel) (by decide) (by decide +kernel) (by decide +kernel)
  have different : ∀ other : FullSignature, other ≠ honest → other.base64 ≠ honest.base64 :=
    fun _ apart same => apart (base64_injective same)
  have decoded : ∀ signature : FullSignature,
      Base64.decodeText signature.base64 = some signature.bytes :=
    fun signature => Base64.decode_text_eq_some_iff.mpr rfl
  refine ⟨accepted, ?_, ?_⟩
  · exact ((others _ (different _ (by decide))).2.2 _ (decoded _)).2.2 rfl rfl accepted
  · exact ((others _ (different _ (by decide))).2.2 _ (decoded _)).2.1 rfl (by decide)

end FullSignature

end SignedResponse
