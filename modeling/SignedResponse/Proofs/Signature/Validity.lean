import Mathlib.Tactic.Common
import SignedResponse.Proofs.Signature.Layout
import SignedResponse.Proofs.Time.Instant

/-!
When a certificate is in force, and what a check of a signature that carries it answers.

Every refusal is stated with the first condition that fails, so the answers below exclude each other
and together cover every certificate.
-/

namespace SignedResponse

namespace Expiration

def lastDay : Nat := 95026236

/-- The day count stands for a date: it is not the reserved zero and the calendar reaches it. -/
def IsDated (expiration : Expiration) : Prop := 1 ≤ expiration.days ∧ expiration.days ≤ lastDay

def InForce (expiration : Expiration) (now : Instant) : Prop :=
  expiration.IsDated ∧ now.seconds < expiration.days * Instant.secondsPerDay

instance (expiration : Expiration) : Decidable expiration.IsDated :=
  inferInstanceAs (Decidable (_ ∧ _))

instance (expiration : Expiration) (now : Instant) : Decidable (expiration.InForce now) :=
  inferInstanceAs (Decidable (_ ∧ _))

/-- Day counts are not negative, so only the end of the calendar can leave a midnight out. -/
theorem representable_midnight_iff (days : Nat) :
    Instant.Representable (days * Instant.secondsPerDay) 0 ↔ days ≤ lastDay := by
  unfold Instant.Representable Instant.minSeconds Instant.maxSeconds Instant.secondsPerDay lastDay
  omega

theorem date_eq_some_iff {expiration : Expiration} {midnight : Instant} :
    expiration.date? = some midnight ↔
      expiration.IsDated ∧ midnight.seconds = expiration.days * Instant.secondsPerDay ∧
        midnight.nanoseconds = 0 := by
  rw [date?, isUndated, Instant.of_epoch_of_lt (by decide), IsDated]
  split_ifs with undated representable
  · have zero : expiration.days = 0 := beq_iff_eq.mp undated
    simp only [false_iff]
    omega
  · have positive : expiration.days ≠ 0 := fun zero => undated (beq_iff_eq.mpr zero)
    rw [Option.some.injEq]
    have dated := (representable_midnight_iff expiration.days).mp representable
    constructor
    · rintro rfl
      exact ⟨⟨by omega, dated⟩, rfl, rfl⟩
    · rintro ⟨-, seconds, nanoseconds⟩
      cases midnight
      cases seconds
      cases nanoseconds
      rfl
  · rw [representable_midnight_iff] at representable
    simp only [false_iff]
    omega

theorem date_eq_none_iff {expiration : Expiration} :
    expiration.date? = none ↔ ¬ expiration.IsDated := by
  constructor
  · intro undated dated
    let midnight : Instant := ⟨_, _, (representable_midnight_iff expiration.days).mpr dated.2⟩
    have found : expiration.date? = some midnight := date_eq_some_iff.mpr ⟨dated, rfl, rfl⟩
    rw [undated] at found
    cases found
  · intro undated
    cases found : expiration.date? with
    | none => rfl
    | some midnight => exact absurd (date_eq_some_iff.mp found).1 undated

theorem expired_iff {expiration : Expiration} {midnight now : Instant}
    (found : expiration.date? = some midnight) :
    midnight ≤ now ↔ expiration.days * Instant.secondsPerDay ≤ now.seconds := by
  obtain ⟨-, seconds, nanoseconds⟩ := date_eq_some_iff.mp found
  rw [Instant.le_iff_of_whole nanoseconds, seconds]

end Expiration

namespace Certificate

variable {scheme : SignatureScheme} {root : PublicKey} {now : Instant} {certificate : Certificate}

def IsSigned (scheme : SignatureScheme) (root : PublicKey) (certificate : Certificate) : Prop :=
  scheme.verifies root (signedMessage certificate.key certificate.expiration)
    certificate.signature = true

instance (scheme : SignatureScheme) (root : PublicKey) (certificate : Certificate) :
    Decidable (certificate.IsSigned scheme root) :=
  inferInstanceAs (Decidable (_ = true))

theorem validate_of_unsigned (unsigned : ¬ certificate.IsSigned scheme root) :
    certificate.validate scheme root now = .error .untrustedKey :=
  if_neg unsigned

theorem validate_of_signed (signed : certificate.IsSigned scheme root) :
    certificate.validate scheme root now =
      match certificate.expiration.date? with
      | none => .error (.undatedKey certificate.expiration.days)
      | some expires =>
          if expires ≤ now then .error (.expiredKey expires)
          else if scheme.isPublicKey certificate.key then .ok ⟨certificate.key⟩
          else .error .untrustedKey :=
  if_pos signed

theorem validate_of_undated (signed : certificate.IsSigned scheme root)
    (undated : ¬ certificate.expiration.IsDated) :
    certificate.validate scheme root now = .error (.undatedKey certificate.expiration.days) := by
  rw [validate_of_signed signed, Expiration.date_eq_none_iff.mpr undated]

theorem validate_of_expired {midnight : Instant} (signed : certificate.IsSigned scheme root)
    (found : certificate.expiration.date? = some midnight)
    (expired : certificate.expiration.days * Instant.secondsPerDay ≤ now.seconds) :
    certificate.validate scheme root now = .error (.expiredKey midnight) := by
  rw [validate_of_signed signed, found]
  exact if_pos ((Expiration.expired_iff found).mpr expired)

theorem validate_of_in_force (signed : certificate.IsSigned scheme root)
    (inForce : certificate.expiration.InForce now) :
    certificate.validate scheme root now =
      if scheme.isPublicKey certificate.key then .ok ⟨certificate.key⟩
      else .error .untrustedKey := by
  cases found : certificate.expiration.date? with
  | none => exact absurd inForce.1 (Expiration.date_eq_none_iff.mp found)
  | some midnight =>
      have toCome : ¬ midnight ≤ now := by
        rw [Expiration.expired_iff found]
        exact Int.not_le.mpr inForce.2
      rw [validate_of_signed signed, found]
      exact if_neg toCome

/-- Accepted are the certificates that the root key signed, that are in force, and whose bytes are
a key; and it is their key that is trusted from then on. -/
theorem validate_eq_ok_iff {key : PublicKey} :
    certificate.validate scheme root now = .ok key ↔
      certificate.IsSigned scheme root ∧ certificate.expiration.InForce now ∧
        scheme.isPublicKey certificate.key = true ∧ key = ⟨certificate.key⟩ := by
  by_cases signed : certificate.IsSigned scheme root
  · by_cases inForce : certificate.expiration.InForce now
    · rw [validate_of_in_force signed inForce]
      by_cases isKey : scheme.isPublicKey certificate.key = true
      · simp only [isKey, if_true, Except.ok.injEq, signed, inForce, true_and]
        exact eq_comm
      · simp [isKey]
    · cases found : certificate.expiration.date? with
      | none =>
          have undated := Expiration.date_eq_none_iff.mp found
          simp [validate_of_undated signed undated, inForce]
      | some midnight =>
          have dated := (Expiration.date_eq_some_iff.mp found).1
          have expired := Int.not_lt.mp fun toCome => inForce ⟨dated, toCome⟩
          simp [validate_of_expired signed found expired, inForce]
  · simp [validate_of_unsigned signed, signed]

end Certificate

namespace FullSignature

variable {scheme : SignatureScheme} {root : PublicKey} {now : Instant}
variable {signature : FullSignature} {parameters : Parameters}

def checkPayload (scheme : SignatureScheme) (parameters : Parameters) (signature : FullSignature)
    (key : PublicKey) : Except SignatureError Unit :=
  if scheme.verifies key (parameters.signedMessage signature.salt.bytes) signature.payload then
    .ok ()
  else .error .wrongPayload

section Effects

variable {m : Type → Type} [Monad m] [LawfulMonad m] (clock : m Instant) {text : String}

theorem run_check_by_of_unread {error : SignatureError} (unread : ofBase64 text = .error error) :
    (checkBy scheme root clock text parameters).run = pure (.error error) := by
  rw [checkBy, unread]
  exact (ExceptT.run_bind _ _).trans (pure_bind _ _)

theorem run_check_by_of_read (read : ofBase64 text = .ok signature) :
    (checkBy scheme root clock text parameters).run =
      (·.bind (signature.checkPayload scheme parameters)) <$>
        (signature.certificate.validateBy scheme root clock).run := by
  rw [checkBy, read]
  refine ((ExceptT.run_bind _ _).trans (pure_bind _ _)).trans ?_
  rw [map_eq_pure_bind]
  refine (ExceptT.run_bind _ _).trans (bind_congr fun trusted => ?_)
  cases trusted with
  | error error => rfl
  | ok key =>
      change ExceptT.run (ite _ _ _) = pure (checkPayload scheme parameters signature key)
      rw [checkPayload]
      split_ifs
      · rfl
      · rfl

end Effects

theorem check_of_unread {text : String} {error : SignatureError}
    (unread : ofBase64 text = .error error) :
    check scheme root now text parameters = .error error :=
  run_check_by_of_unread (pure now : Id Instant) unread

theorem check_of_read {text : String} (read : ofBase64 text = .ok signature) :
    check scheme root now text parameters =
      (signature.certificate.validate scheme root now).bind
        (signature.checkPayload scheme parameters) :=
  run_check_by_of_read (pure now : Id Instant) read

theorem check_base64 :
    check scheme root now signature.base64 parameters =
      (signature.certificate.validate scheme root now).bind
        (signature.checkPayload scheme parameters) :=
  check_of_read (of_base64_base64 signature)

theorem check_of_not_base64 {text : String} (undecoded : Base64.decodeText text = none) :
    check scheme root now text parameters = .error (.notBase64 text) := by
  apply check_of_unread
  rw [ofBase64, undecoded]

theorem check_of_wrong_size {text : String} {bytes : List UInt8}
    (decoded : Base64.decodeText text = some bytes) (wrong : bytes.length ≠ Component.total) :
    check scheme root now text parameters = .error (.wrongSize bytes.length) := by
  apply check_of_unread
  rw [ofBase64, decoded]
  exact of_bytes_of_wrong_size wrong

theorem check_of_refused {error : SignatureError}
    (refused : signature.certificate.validate scheme root now = .error error) :
    check scheme root now signature.base64 parameters = .error error := by
  rw [check_base64, refused]
  rfl

theorem check_of_trusted {key : PublicKey}
    (trusted : signature.certificate.validate scheme root now = .ok key) :
    check scheme root now signature.base64 parameters =
      if scheme.verifies key (parameters.signedMessage signature.salt.bytes) signature.payload then
        .ok ()
      else .error .wrongPayload := by
  rw [check_base64, trusted]
  rfl

/-- A text is accepted when it is the text of a signature whose certificate is accepted and whose
payload the certified key signed. -/
theorem check_eq_ok_iff {text : String} :
    check scheme root now text parameters = .ok () ↔
      ∃ signature : FullSignature, text = signature.base64 ∧
        ∃ key, signature.certificate.validate scheme root now = .ok key ∧
          scheme.verifies key (parameters.signedMessage signature.salt.bytes)
            signature.payload = true := by
  constructor
  · intro accepted
    cases read : ofBase64 text with
    | error error =>
        rw [check_of_unread read] at accepted
        cases accepted
    | ok signature =>
        have same := of_base64_eq_ok_iff.mp read
        refine ⟨signature, same, ?_⟩
        cases trusted : signature.certificate.validate scheme root now with
        | error error =>
            rw [same, check_of_refused trusted] at accepted
            cases accepted
        | ok key =>
            rw [same, check_of_trusted trusted] at accepted
            refine ⟨key, rfl, ?_⟩
            by_contra unsigned
            rw [if_neg unsigned] at accepted
            cases accepted
  · rintro ⟨signature, rfl, key, trusted, signed⟩
    rw [check_of_trusted trusted, if_pos signed]

end FullSignature

end SignedResponse
