import SignedResponse.Proofs.Base64.Standard
import SignedResponse.Proofs.Signature.Layout

/-!
The text of a signature header: what it is read as, and why it is refused.

Nothing is assumed of the text. Either it is the standard form of some bytes, and then the number of
bytes decides, or it is the form of none.
-/

namespace SignedResponse

open Base64 (IsStandard)

namespace FullSignature

theorem of_base64_cases (text : String) :
    (∃ signature : FullSignature, IsStandard text.toList signature.bytes ∧
        ofBase64 text = .ok signature) ∨
      (∃ bytes, IsStandard text.toList bytes ∧ bytes.length ≠ 180 ∧
        ofBase64 text = .error (.wrongSize bytes.length)) ∨
      ((∀ bytes, ¬ IsStandard text.toList bytes) ∧ ofBase64 text = .error (.notBase64 text)) := by
  cases decoded : Base64.decodeText text with
  | none =>
      refine Or.inr (Or.inr ⟨?_, by rw [ofBase64, decoded]⟩)
      intro bytes form
      rw [Base64.decode_text_eq_some_iff_standard.mpr form] at decoded
      cases decoded
  | some bytes =>
      have form := Base64.decode_text_eq_some_iff_standard.mp decoded
      by_cases complete : bytes.length = 180
      · obtain ⟨signature, rfl, rfl⟩ := exists_of_decoded decoded complete
        exact Or.inl ⟨signature, form, of_base64_base64 signature⟩
      · refine Or.inr (Or.inl ⟨bytes, form, complete, ?_⟩)
        rw [ofBase64, decoded]
        exact of_bytes_of_wrong_size complete

theorem of_base64_eq_ok_iff_is_standard {text : String} {signature : FullSignature} :
    ofBase64 text = .ok signature ↔ IsStandard text.toList signature.bytes := by
  rw [of_base64_eq_ok_iff, FullSignature.base64, ← Base64.decode_text_eq_some_iff]
  exact Base64.decode_text_eq_some_iff_standard

theorem of_base64_is_ok_iff {text : String} :
    (∃ signature, ofBase64 text = .ok signature) ↔
      ∃ bytes, IsStandard text.toList bytes ∧ bytes.length = 180 := by
  constructor
  · rintro ⟨signature, read⟩
    exact ⟨_, of_base64_eq_ok_iff_is_standard.mp read, signature.length_bytes_eq⟩
  · rintro ⟨bytes, form, complete⟩
    obtain ⟨signature, same, -⟩ :=
      exists_of_decoded (Base64.decode_text_eq_some_iff_standard.mpr form) complete
    exact ⟨signature, of_base64_eq_ok_iff.mpr same⟩

theorem of_base64_eq_wrong_size_iff {text : String} {size : Nat} :
    ofBase64 text = .error (.wrongSize size) ↔
      ∃ bytes, IsStandard text.toList bytes ∧ bytes.length = size ∧ size ≠ 180 := by
  constructor
  · intro refused
    rcases of_base64_cases text with
      ⟨signature, -, read⟩ | ⟨bytes, form, wrong, read⟩ | ⟨-, read⟩
    · rw [read] at refused
      cases refused
    · rw [read] at refused
      cases refused
      exact ⟨bytes, form, rfl, wrong⟩
    · rw [read] at refused
      cases refused
  · rintro ⟨bytes, form, rfl, wrong⟩
    rw [ofBase64, Base64.decode_text_eq_some_iff_standard.mpr form]
    exact of_bytes_of_wrong_size wrong

theorem of_base64_eq_not_base64_iff {text told : String} :
    ofBase64 text = .error (.notBase64 told) ↔
      told = text ∧ ∀ bytes, ¬ IsStandard text.toList bytes := by
  constructor
  · intro refused
    rcases of_base64_cases text with
      ⟨signature, -, read⟩ | ⟨bytes, -, -, read⟩ | ⟨formless, read⟩
    · rw [read] at refused
      cases refused
    · rw [read] at refused
      cases refused
    · rw [read] at refused
      cases refused
      exact ⟨rfl, formless⟩
  · rintro ⟨rfl, formless⟩
    rcases of_base64_cases told with ⟨signature, form, -⟩ | ⟨bytes, form, -⟩ | ⟨-, read⟩
    · exact absurd form (formless _)
    · exact absurd form (formless _)
    · exact read

/-- Reading accepts the texts that signatures are written as, one for each signature. Those are the
standard forms of 180 bytes. The standard form of any other number of bytes is refused with that
number, a text that is the standard form of no bytes is refused with the text as it is, and there is
no fourth answer. -/
theorem header_text_has_one_reading (text : String) :
    (∀ signature, ofBase64 text = .ok signature ↔ text = signature.base64) ∧
      (∀ signature : FullSignature,
        ofBase64 text = .ok signature ↔ IsStandard text.toList signature.bytes) ∧
      ((∃ signature, ofBase64 text = .ok signature) ↔
        ∃ bytes, IsStandard text.toList bytes ∧ bytes.length = 180) ∧
      (∀ size, ofBase64 text = .error (.wrongSize size) ↔
        ∃ bytes, IsStandard text.toList bytes ∧ bytes.length = size ∧ size ≠ 180) ∧
      (∀ told, ofBase64 text = .error (.notBase64 told) ↔
        told = text ∧ ∀ bytes, ¬ IsStandard text.toList bytes) ∧
      ((∃ signature, ofBase64 text = .ok signature) ∨
        (∃ size, ofBase64 text = .error (.wrongSize size)) ∨
        ofBase64 text = .error (.notBase64 text)) ∧
      ∀ other signature, ofBase64 text = .ok signature → ofBase64 other = .ok signature →
        text = other := by
  refine ⟨fun _ => of_base64_eq_ok_iff, fun _ => of_base64_eq_ok_iff_is_standard,
    of_base64_is_ok_iff, fun _ => of_base64_eq_wrong_size_iff,
    fun _ => of_base64_eq_not_base64_iff, ?_, ?_⟩
  · rcases of_base64_cases text with
      ⟨signature, -, read⟩ | ⟨bytes, -, -, read⟩ | ⟨-, read⟩
    · exact Or.inl ⟨signature, read⟩
    · exact Or.inr (Or.inl ⟨_, read⟩)
    · exact Or.inr (Or.inr read)
  · intro other signature read otherRead
    rw [of_base64_eq_ok_iff.mp read, of_base64_eq_ok_iff.mp otherRead]

/-- One byte has one form: with a spare bit set, the text is the form of nothing. -/
theorem lone_byte_has_one_form :
    ofBase64 "AA==" = .error (.wrongSize 1) ∧ ofBase64 "AB==" = .error (.notBase64 "AB==") := by
  constructor
  · refine ((header_text_has_one_reading "AA==").2.2.2.1 1).mpr ⟨[0], ?_, rfl, by decide⟩
    exact Base64.is_standard_encode [0]
  · refine ((header_text_has_one_reading "AB==").2.2.2.2.1 "AB==").mpr ⟨rfl, ?_⟩
    intro bytes form
    have undecoded : Base64.decodeText "AB==" = none := by decide
    rw [Base64.decode_text_eq_some_iff_standard.mpr form] at undecoded
    cases undecoded

end FullSignature

end SignedResponse
