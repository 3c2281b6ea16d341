import Mathlib.Tactic.Common
import SignedResponse.Crypto.Ed25519
import SignedResponse.Proofs.Signature.Expiration
import SignedResponse.Proofs.Signature.HonestSigner

/-!
From when to when a signature is good, if its key is certified until a given moment.

The moment counts by its day. The signature is good at every instant before the midnight at which
that day starts and at no other one; a moment before 1970-01-02 has no such midnight.
-/

namespace SignedResponse

namespace Signer

section Certified

variable {scheme : SignatureScheme} {root key : PrivateKey} {expiration : Expiration}
variable {ends : Instant} {parameters : Parameters} {salt : Block 16}

theorem check_sign_of_midnight {midnight : Instant}
    (certified : scheme.HonestOn root
      (Certificate.signedMessage (scheme.publicKey key).block expiration))
    (signed : scheme.HonestOn key (parameters.signedMessage salt.bytes))
    (found : expiration.date? = some midnight) (now : Instant) :
    FullSignature.check scheme (scheme.publicKey root) now
      ((Signer.certified scheme root key expiration).sign scheme parameters salt).base64
      parameters = if now < midnight then .ok () else .error (.expiredKey midnight) := by
  obtain ⟨dated, seconds, nanoseconds⟩ := Expiration.date_eq_some_iff.mp found
  have order : now < midnight ↔ now.seconds < expiration.days * Instant.secondsPerDay := by
    rw [Instant.lt_iff_of_whole nanoseconds, seconds]
  split_ifs with toCome
  · exact check_sign_of_in_force certified signed ⟨dated, order.mp toCome⟩
  · rw [order] at toCome
    exact check_sign_of_expired certified found (Int.not_lt.mp toCome)

variable (certified : scheme.HonestOn root
  (Certificate.signedMessage (scheme.publicKey key).block (.ofInstant ends)))
include certified

theorem check_sign_of_early (early : ends.seconds / 86400 ≤ 0) (now : Instant) :
    FullSignature.check scheme (scheme.publicKey root) now
      ((Signer.certified scheme root key (.ofInstant ends)).sign scheme parameters salt).base64
      parameters = .error (.undatedKey 0) := by
  have days : (Expiration.ofInstant ends).days = 0 := by
    rw [Expiration.days_of_instant]
    exact Int.toNat_of_nonpos early
  have undated : ¬ (Expiration.ofInstant ends).IsDated := by
    rw [Expiration.is_dated_of_instant_iff]
    omega
  rw [check_sign_of_undated certified undated, days]

variable (signed : scheme.HonestOn key (parameters.signedMessage salt.bytes))
include signed

theorem check_sign_of_late (late : 1 ≤ ends.seconds / 86400) :
    ∃ midnight : Instant, midnight.seconds = 86400 * (ends.seconds / 86400) ∧
      midnight.nanoseconds = 0 ∧ ∀ now,
        FullSignature.check scheme (scheme.publicKey root) now
          ((Signer.certified scheme root key (.ofInstant ends)).sign scheme parameters salt).base64
          parameters = if now < midnight then .ok () else .error (.expiredKey midnight) := by
  cases found : (Expiration.ofInstant ends).date? with
  | none =>
      exact absurd ((Expiration.is_dated_of_instant_iff ends).mpr late)
        (Expiration.date_eq_none_iff.mp found)
  | some midnight =>
      obtain ⟨-, seconds, nanoseconds⟩ := Expiration.date_eq_some_iff.mp found
      refine ⟨midnight, ?_, nanoseconds, check_sign_of_midnight certified signed found⟩
      rw [seconds, Expiration.days_of_instant, Int.toNat_of_nonneg (by omega)]
      exact Int.mul_comm ..

theorem check_sign_eq_ok_iff (now : Instant) :
    FullSignature.check scheme (scheme.publicKey root) now
        ((Signer.certified scheme root key (.ofInstant ends)).sign scheme parameters salt).base64
        parameters = .ok () ↔
      1 ≤ ends.seconds / 86400 ∧ now.seconds < 86400 * (ends.seconds / 86400) := by
  by_cases late : 1 ≤ ends.seconds / 86400
  · obtain ⟨midnight, seconds, nanoseconds, answers⟩ := check_sign_of_late certified signed late
    rw [answers, ← seconds, ← Instant.lt_iff_of_whole nanoseconds]
    split_ifs with toCome <;> simp [toCome, late]
  · rw [check_sign_of_early certified (by omega)]
    simp [late]

theorem check_sign_stays_expired {earlier later midnight : Instant} (order : earlier ≤ later)
    (expired : FullSignature.check scheme (scheme.publicKey root) earlier
      ((Signer.certified scheme root key (.ofInstant ends)).sign scheme parameters salt).base64
      parameters = .error (.expiredKey midnight)) :
    FullSignature.check scheme (scheme.publicKey root) later
      ((Signer.certified scheme root key (.ofInstant ends)).sign scheme parameters salt).base64
      parameters = .error (.expiredKey midnight) := by
  by_cases late : 1 ≤ ends.seconds / 86400
  · obtain ⟨end_, -, whole, answers⟩ := check_sign_of_late certified signed late
    rw [answers] at expired ⊢
    split_ifs at expired with toCome
    have passed : ¬ later < end_ := by
      have seconds := Instant.seconds_le_of_le order
      rw [Instant.lt_iff_of_whole whole] at toCome ⊢
      omega
    rw [if_neg passed, expired]
  · rw [check_sign_of_early certified (by omega)] at expired
    cases expired

end Certified

/-- A signature under a certificate until some moment is good exactly at the instants before the
midnight that starts the day of the moment; from then on the answer tells that midnight. A moment
before the second day of 1970 leaves the key undated for good. In milliseconds the midnight comes
after as many as its days have, and every number of them up to the end of the calendar is an
instant. So what is good was good before, and what has expired stays expired. -/
theorem validity_window (scheme : SignatureScheme) (root key : PrivateKey) (ends : Instant)
    (parameters : Parameters) (salt : Block 16)
    (certified : scheme.HonestOn root
      (Certificate.signedMessage (scheme.publicKey key).block (.ofInstant ends)))
    (signed : scheme.HonestOn key (parameters.signedMessage salt.bytes)) :
    let day := ends.seconds / 86400
    let text :=
      ((Signer.certified scheme root key (.ofInstant ends)).sign scheme parameters salt).base64
    let answer (now : Instant) :=
      FullSignature.check scheme (scheme.publicKey root) now text parameters
    (day ≤ 0 → ∀ now, answer now = .error (.undatedKey 0)) ∧
    (1 ≤ day → ∃ midnight : Instant, midnight.seconds = 86400 * day ∧ midnight.nanoseconds = 0 ∧
      ∀ now, answer now = if now < midnight then .ok () else .error (.expiredKey midnight)) ∧
    (∀ millis now, Instant.ofMillis? millis = some now →
      (answer now = .ok () ↔ millis < 86400000 * day)) ∧
    (∀ millis, (Instant.ofMillis? millis).isSome = true ↔ millis ≤ 8210266876799999) ∧
    (∀ earlier later, earlier ≤ later → answer later = .ok () → answer earlier = .ok ()) ∧
    ∀ earlier later midnight, earlier ≤ later → answer earlier = .error (.expiredKey midnight) →
      answer later = .error (.expiredKey midnight) := by
  intro day text answer
  have good : ∀ now, answer now = .ok () ↔ 1 ≤ day ∧ now.seconds < 86400 * day :=
    check_sign_eq_ok_iff certified signed
  refine ⟨check_sign_of_early certified, check_sign_of_late certified signed, ?_,
    Instant.is_some_of_millis_iff, ?_, ?_⟩
  · intro millis now found
    rw [good, Instant.seconds_of_of_millis found]
    omega
  · intro earlier later order accepted
    have seconds := Instant.seconds_le_of_le order
    rw [good] at accepted ⊢
    omega
  · intro earlier later midnight order expired
    exact check_sign_stays_expired certified signed order expired

/-- Certified until half past eleven at night, a signature is good up to the last millisecond of the
day before. -/
theorem half_past_eleven_window :
    let ends : Instant := ⟨1710545400, 0, by decide⟩
    let parameters : Parameters := { message := some [0x22, 0x22], requestDate := 1710072000000 }
    let text := ((Signer.certified ed25519 ⟨.replicate 32 1⟩ ⟨.replicate 32 2⟩
      (.ofInstant ends)).sign ed25519 parameters (.replicate 16 3)).base64
    let answer (now : Instant) :=
      FullSignature.check ed25519 (ed25519.publicKey ⟨.replicate 32 1⟩) now text parameters
    answer ⟨1710460799, 999000000, by decide⟩ = .ok () ∧
      answer ⟨1710460800, 0, by decide⟩ = .error (.expiredKey ⟨1710460800, 0, by decide⟩) := by
  intro ends parameters text answer
  obtain ⟨-, dated, inMillis, -, -, -⟩ := validity_window ed25519 ⟨.replicate 32 1⟩
    ⟨.replicate 32 2⟩ ends parameters (.replicate 16 3) (by decide +kernel) (by decide +kernel)
  refine ⟨(inMillis 1710460799999 _ (by decide)).mpr (by decide), ?_⟩
  obtain ⟨midnight, seconds, nanoseconds, answers⟩ := dated (by decide)
  have same : midnight = ⟨1710460800, 0, by decide⟩ := by
    obtain ⟨_, _, _⟩ := midnight
    cases seconds
    cases nanoseconds
    rfl
  rw [← same]
  exact (answers midnight).trans (if_neg (by rw [same]; decide))

end Signer

end SignedResponse
