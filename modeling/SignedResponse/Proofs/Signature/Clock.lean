import SignedResponse.Proofs.Signature.Validity
import SignedResponse.Signature.Verify

/-!
When the check of a signature asks for the time.

It does so once, for a certificate that the root key has signed and that has a date. In every other
case the answer is settled before, and it is the same at any time.
-/

namespace SignedResponse

namespace Certificate

/-- The root key has signed the certificate and it has a date, which is then compared with now. -/
def AsksTime (scheme : SignatureScheme) (root : PublicKey) (certificate : Certificate) : Prop :=
  certificate.IsSigned scheme root ∧ certificate.expiration.IsDated

instance (scheme : SignatureScheme) (root : PublicKey) (certificate : Certificate) :
    Decidable (certificate.AsksTime scheme root) :=
  inferInstanceAs (Decidable (_ ∧ _))

variable {m : Type → Type} [Monad m] {scheme : SignatureScheme} {root : PublicKey}
variable {certificate : Certificate} (clock : m Instant)

theorem run_validate_by_of_unsigned (unsigned : ¬ certificate.IsSigned scheme root) :
    (certificate.validateBy scheme root clock).run = pure (.error .untrustedKey) :=
  congrArg ExceptT.run (if_neg unsigned)

theorem run_validate_by_of_undated (signed : certificate.IsSigned scheme root)
    (undated : ¬ certificate.expiration.IsDated) :
    (certificate.validateBy scheme root clock).run =
      pure (.error (.undatedKey certificate.expiration.days)) := by
  refine (congrArg ExceptT.run (if_pos signed)).trans ?_
  rw [Expiration.date_eq_none_iff.mpr undated]
  rfl

theorem run_validate_by_of_silent (silent : ¬ certificate.AsksTime scheme root) (now : Instant) :
    (certificate.validateBy scheme root clock).run =
      pure (certificate.validate scheme root now) := by
  by_cases signed : certificate.IsSigned scheme root
  · have undated : ¬ certificate.expiration.IsDated := fun dated => silent ⟨signed, dated⟩
    rw [run_validate_by_of_undated clock signed undated, validate_of_undated signed undated]
  · rw [run_validate_by_of_unsigned clock signed, validate_of_unsigned signed]

variable [LawfulMonad m]

theorem run_validate_by_of_asking (asks : certificate.AsksTime scheme root) :
    (certificate.validateBy scheme root clock).run =
      (certificate.validate scheme root ·) <$> clock := by
  obtain ⟨signed, dated⟩ := asks
  cases found : certificate.expiration.date? with
  | none => exact absurd dated (Expiration.date_eq_none_iff.mp found)
  | some expires =>
      refine (congrArg ExceptT.run (if_pos signed)).trans ?_
      rw [found, map_eq_pure_bind]
      refine (ExceptT.run_bind_lift clock _).trans (bind_congr fun now => ?_)
      rw [validate_of_signed signed, found]
      dsimp only
      split_ifs
      · rfl
      · rfl
      · rfl

end Certificate

namespace FullSignature

/-- The text is that of a signature whose certificate is compared with the time. -/
def AsksTime (scheme : SignatureScheme) (root : PublicKey) (text : String) : Prop :=
  ∃ signature : FullSignature, text = signature.base64 ∧
    signature.certificate.AsksTime scheme root

variable {scheme : SignatureScheme} {root : PublicKey} {signature : FullSignature} {text : String}

theorem asks_time_of_read (read : ofBase64 text = .ok signature) :
    AsksTime scheme root text ↔ signature.certificate.AsksTime scheme root := by
  constructor
  · rintro ⟨other, same, asks⟩
    rw [of_base64_eq_ok_iff.mpr same] at read
    cases read
    exact asks
  · exact fun asks => ⟨signature, of_base64_eq_ok_iff.mp read, asks⟩

theorem not_asks_time_of_unread {error : SignatureError} (unread : ofBase64 text = .error error) :
    ¬ AsksTime scheme root text := by
  rintro ⟨signature, same, -⟩
  rw [of_base64_eq_ok_iff.mpr same] at unread
  cases unread

instance (scheme : SignatureScheme) (root : PublicKey) (text : String) :
    Decidable (AsksTime scheme root text) :=
  match read : ofBase64 text with
  | .ok _ => decidable_of_iff _ (asks_time_of_read read).symm
  | .error _ => isFalse (not_asks_time_of_unread read)

variable {m : Type → Type} [Monad m] [LawfulMonad m] (clock : m Instant) (parameters : Parameters)

/-- The clock is asked if the text makes it so; if not, any time is as good as any other. -/
theorem run_check_by (now : Instant) :
    (checkBy scheme root clock text parameters).run =
      (check scheme root · text parameters) <$>
        if AsksTime scheme root text then clock else pure now := by
  cases read : ofBase64 text with
  | error error =>
      rw [run_check_by_of_unread clock read, if_neg (not_asks_time_of_unread read), map_pure,
        check_of_unread read]
  | ok signature =>
      rw [run_check_by_of_read clock read]
      simp only [check_of_read read, asks_time_of_read read]
      split_ifs with asks
      · rw [Certificate.run_validate_by_of_asking clock asks, Functor.map_map]
      · rw [Certificate.run_validate_by_of_silent clock asks now, map_pure, map_pure]

end FullSignature

end SignedResponse
