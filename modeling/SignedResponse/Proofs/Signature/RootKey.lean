import SignedResponse.Proofs.Base64.Standard
import SignedResponse.Proofs.Crypto.PointDecoding
import SignedResponse.Proofs.Text.Blank
import SignedResponse.Signature.RootKey

/-!
Which texts give a root key, and which key each of them gives.

A text gives a key exactly if, without the blanks around it, it is the standard base64 form of 32
bytes that stand for a point. The key has these very bytes, also where others stand for the same
point, since certificates sign the bytes.
-/

namespace SignedResponse

open Base64 (IsStandard)
open Blank (IsCore isBlank)
open Edwards25519 (GivesPoint)

namespace PublicKey

variable {key : PublicKey} {bytes : List UInt8} {text : String} {core : List Char}
  {error : SignatureError}

/-- The bytes that are no key: they have another size, or give no point. -/
def IsNoKey (bytes : List UInt8) : Prop :=
  bytes.length ≠ 32 ∨ ∃ block : Block 32, block.bytes = bytes ∧ ¬ GivesPoint block

theorem of_bytes_cases (bytes : List UInt8) :
    (∃ key : PublicKey, bytes = key.block.bytes ∧ GivesPoint key.block ∧
        ofBytes ed25519 bytes = .ok key) ∨
      IsNoKey bytes ∧ ofBytes ed25519 bytes = .error .notPublicKey := by
  by_cases size : bytes.length = 32
  · obtain ⟨block, rfl⟩ : ∃ block : Block 32, block.bytes = bytes := ⟨⟨bytes, size⟩, rfl⟩
    rw [ofBytes, Block.of_list_bytes]
    by_cases point : GivesPoint block
    · left
      exact ⟨⟨block⟩, rfl, point, if_pos (is_public_key_ed25519_iff.mpr point)⟩
    · right
      refine ⟨Or.inr ⟨block, rfl, point⟩, if_neg ?_⟩
      rw [is_public_key_ed25519_iff]
      exact point
  · right
    exact ⟨Or.inl size, by rw [ofBytes, Block.ofList?, dif_neg size]⟩

theorem of_bytes_eq_ok_iff :
    ofBytes ed25519 bytes = .ok key ↔ bytes = key.block.bytes ∧ GivesPoint key.block := by
  constructor
  · intro read
    rcases of_bytes_cases bytes with ⟨other, same, point, accepted⟩ | ⟨-, refused⟩
    · rw [accepted] at read
      cases read
      exact ⟨same, point⟩
    · rw [refused] at read
      cases read
  · rintro ⟨rfl, point⟩
    rw [ofBytes, Block.of_list_bytes]
    exact if_pos (is_public_key_ed25519_iff.mpr point)

theorem of_bytes_eq_error_iff :
    ofBytes ed25519 bytes = .error error ↔ error = .notPublicKey ∧ IsNoKey bytes := by
  constructor
  · intro read
    rcases of_bytes_cases bytes with ⟨key, -, -, accepted⟩ | ⟨noKey, refused⟩
    · rw [accepted] at read
      cases read
    · rw [refused] at read
      cases read
      exact ⟨rfl, noKey⟩
  · rintro ⟨rfl, noKey⟩
    rcases of_bytes_cases bytes with ⟨key, rfl, point, -⟩ | ⟨-, refused⟩
    · rcases noKey with wrong | ⟨block, same, pointless⟩
      · exact absurd key.block.length_eq wrong
      · rw [Block.eq_of_bytes_eq same] at pointless
        exact absurd point pointless
    · exact refused

theorem of_base64_of_standard (lies : IsCore text.toList core) (standard : IsStandard core bytes) :
    ofBase64 ed25519 text = ofBytes ed25519 bytes := by
  rw [ofBase64, lies.trim_eq, Base64.decode_eq_some_iff_standard.mpr standard]

theorem of_base64_of_formless (lies : IsCore text.toList core)
    (formless : ∀ bytes, ¬ IsStandard core bytes) :
    ofBase64 ed25519 text = .error .notPublicKey := by
  have unread : Base64.decode core = none := by
    rw [Option.eq_none_iff_forall_ne_some]
    intro bytes read
    exact formless bytes (Base64.decode_eq_some_iff_standard.mp read)
  rw [ofBase64, lies.trim_eq, unread]

theorem of_base64_eq_ok_iff_of_bytes :
    ofBase64 ed25519 text = .ok key ↔
      ∃ core bytes, IsCore text.toList core ∧ IsStandard core bytes ∧
        ofBytes ed25519 bytes = .ok key := by
  constructor
  · intro read
    have lies := Blank.is_core_trim text.toList
    by_cases formed : ∃ bytes, IsStandard (Blank.trim text.toList) bytes
    · obtain ⟨bytes, standard⟩ := formed
      rw [of_base64_of_standard lies standard] at read
      exact ⟨_, bytes, lies, standard, read⟩
    · rw [of_base64_of_formless lies (not_exists.mp formed)] at read
      cases read
  · rintro ⟨core, bytes, lies, standard, read⟩
    rw [of_base64_of_standard lies standard, read]

theorem of_base64_eq_ok_iff :
    ofBase64 ed25519 text = .ok key ↔
      ∃ core, IsCore text.toList core ∧ IsStandard core key.block.bytes ∧
        GivesPoint key.block := by
  simp only [of_base64_eq_ok_iff_of_bytes, of_bytes_eq_ok_iff]
  constructor
  · rintro ⟨core, _, lies, standard, rfl, point⟩
    exact ⟨core, lies, standard, point⟩
  · rintro ⟨core, lies, standard, point⟩
    exact ⟨core, _, lies, standard, rfl, point⟩

theorem of_base64_eq_error_iff :
    ofBase64 ed25519 text = .error error ↔
      error = .notPublicKey ∧
        ∃ core, IsCore text.toList core ∧ ∀ bytes, IsStandard core bytes → IsNoKey bytes := by
  simp only [Blank.is_core_iff, exists_eq_left']
  have lies := Blank.is_core_trim text.toList
  by_cases formed : ∃ bytes, IsStandard (Blank.trim text.toList) bytes
  · obtain ⟨bytes, standard⟩ := formed
    have only : (∀ other, IsStandard (Blank.trim text.toList) other → IsNoKey other) ↔
        IsNoKey bytes := by
      constructor
      · intro all
        exact all bytes standard
      · intro noKey other also
        rwa [also.unique standard]
    rw [of_base64_of_standard lies standard, of_bytes_eq_error_iff, only]
  · rw [of_base64_of_formless lies (not_exists.mp formed), Except.error.injEq, eq_comm]
    simp [not_exists.mp formed]

theorem is_blank_of_mem_encode {char : Char} (member : char ∈ Base64.encode bytes) :
    isBlank char = false := by
  have table : ∀ value < 64, isBlank (Base64.symbol value) = false := by decide
  rcases Base64.mem_encode member with rfl | ⟨value, bound, rfl⟩
  · decide
  · exact table value bound

/-- A text gives a key exactly if its core is the standard form of the bytes of the key and these
give a point, which is to say that the bytes of the core are taken for this key; all other texts are
refused in one way, be it that the core is the form of no bytes, that it has not 32 of them, or that
they give no point. So each key is read back from its written form with any blanks around it, byte
for byte. -/
theorem key_text_has_one_reading :
    (∀ (text : String) (key : PublicKey), ofBase64 ed25519 text = .ok key ↔
      ∃ core, IsCore text.toList core ∧ IsStandard core key.block.bytes ∧
        GivesPoint key.block) ∧
    (∀ (text : String) (key : PublicKey), ofBase64 ed25519 text = .ok key ↔
      ∃ core bytes, IsCore text.toList core ∧ IsStandard core bytes ∧
        ofBytes ed25519 bytes = .ok key) ∧
    (∀ (text : String) (error : SignatureError), ofBase64 ed25519 text = .error error ↔
      error = .notPublicKey ∧
        ∃ core, IsCore text.toList core ∧ ∀ bytes, IsStandard core bytes →
          bytes.length ≠ 32 ∨ ∃ block : Block 32, block.bytes = bytes ∧ ¬ GivesPoint block) ∧
    ∀ (key : PublicKey) (before after : List Char), GivesPoint key.block →
      (∀ char ∈ before, isBlank char = true) → (∀ char ∈ after, isBlank char = true) →
      ofBase64 ed25519 (String.ofList (before ++ (Base64.encode key.block.bytes ++ after))) =
        .ok key := by
  refine ⟨fun _ _ => of_base64_eq_ok_iff, fun _ _ => of_base64_eq_ok_iff_of_bytes,
    fun _ _ => of_base64_eq_error_iff, ?_⟩
  intro key before after point blankBefore blankAfter
  have lies : IsCore (Base64.encode key.block.bytes) (Base64.encode key.block.bytes) :=
    Blank.is_core_of_clean fun _ member => is_blank_of_mem_encode member
  apply of_base64_eq_ok_iff.mpr
  refine ⟨Base64.encode key.block.bytes, ?_, Base64.is_standard_encode _, point⟩
  rw [String.toList_ofList]
  exact lies.surround blankBefore blankAfter

/-- The number 1 is the `y` of the neutral point, and the same modulo the prime when the prime is
added. Both spellings are read, and as two keys. -/
theorem neutral_point_spelled_twice :
    let reduced : PublicKey := ⟨LittleEndian.block 32 1⟩
    let unreduced : PublicKey := ⟨LittleEndian.block 32 (Field25519.prime + 1)⟩
    let text (key : PublicKey) :=
      String.ofList (['\u3000'] ++ (Base64.encode key.block.bytes ++ ['\n']))
    Edwards25519.ordinate reduced.block = Edwards25519.ordinate unreduced.block ∧
      GivesPoint reduced.block ∧ GivesPoint unreduced.block ∧ reduced ≠ unreduced ∧
      ofBase64 ed25519 (text reduced) = .ok reduced ∧
      ofBase64 ed25519 (text unreduced) = .ok unreduced := by
  have first : Edwards25519.ordinate (LittleEndian.block 32 1) = 1 := by decide
  have second : Edwards25519.ordinate (LittleEndian.block 32 (Field25519.prime + 1)) = 1 := by
    decide
  have reducedPoint : GivesPoint (LittleEndian.block 32 1) := ⟨0, first.symm⟩
  have unreducedPoint : GivesPoint (LittleEndian.block 32 (Field25519.prime + 1)) :=
    ⟨0, second.symm⟩
  have blank : ∀ char ∈ ['\u3000'], isBlank char = true :=
    List.forall_mem_singleton.mpr (by decide)
  have blankAfter : ∀ char ∈ ['\n'], isBlank char = true :=
    List.forall_mem_singleton.mpr (by decide)
  obtain ⟨-, -, -, written⟩ := key_text_has_one_reading
  exact ⟨first.trans second.symm, reducedPoint, unreducedPoint, by decide,
    written _ _ _ reducedPoint blank blankAfter, written _ _ _ unreducedPoint blank blankAfter⟩

end PublicKey

end SignedResponse
