import Mathlib.Data.List.Basic
import SignedResponse.Proofs.Base64
import SignedResponse.Signature.FullSignature

/-!
The text of a full signature and its five components determine each other.

A text is read exactly when it is the written form of a signature, and what is not read is refused
for its alphabet or for its size.
-/

namespace SignedResponse

theorem Component.total_eq : Component.total = 180 := by decide

theorem Block.append_inj {size : Nat} {left right : Block size} {leftRest rightRest : List UInt8}
    (same : left.bytes ++ leftRest = right.bytes ++ rightRest) :
    left = right ∧ leftRest = rightRest := by
  have sizes : left.bytes.length = right.bytes.length := left.length_eq.trans right.length_eq.symm
  obtain ⟨bytes, rest⟩ := List.append_inj same sizes
  exact ⟨Block.eq_of_bytes_eq bytes, rest⟩

namespace FullSignature

theorem length_bytes_eq (signature : FullSignature) : signature.bytes.length = Component.total := by
  simp only [FullSignature.bytes, List.length_append, Block.length_eq]
  rfl

theorem eq_of_same_bytes {left right : FullSignature} (same : left.bytes = right.bytes) :
    left = right := by
  obtain ⟨⟨leftKey, ⟨leftExpiration⟩, ⟨leftCertificate⟩⟩, leftSalt, ⟨leftPayload⟩⟩ := left
  obtain ⟨⟨rightKey, ⟨rightExpiration⟩, ⟨rightCertificate⟩⟩, rightSalt, ⟨rightPayload⟩⟩ := right
  simp only [FullSignature.bytes, List.append_assoc] at same
  obtain ⟨key, same⟩ := Block.append_inj same
  obtain ⟨expiration, same⟩ := Block.append_inj same
  obtain ⟨certificate, same⟩ := Block.append_inj same
  obtain ⟨salt, payload⟩ := Block.append_inj same
  rw [key, expiration, certificate, salt, Block.eq_of_bytes_eq payload]

theorem slice_of_complete (component : Component) {bytes : List UInt8}
    (complete : bytes.length = Component.total) :
    ∃ block, component.slice bytes = .ok block ∧
      block.bytes = (bytes.drop component.offset).take component.size :=
  ⟨_, dif_pos complete, rfl⟩

theorem of_bytes_of_complete {bytes : List UInt8} (complete : bytes.length = Component.total) :
    ∃ signature, ofBytes bytes = .ok signature ∧ signature.bytes = bytes := by
  obtain ⟨key, keyRead, keyBytes⟩ := slice_of_complete .key complete
  obtain ⟨expiration, expirationRead, expirationBytes⟩ := slice_of_complete .expiration complete
  obtain ⟨certificate, certificateRead, certificateBytes⟩ :=
    slice_of_complete .certificate complete
  obtain ⟨salt, saltRead, saltBytes⟩ := slice_of_complete .salt complete
  obtain ⟨payload, payloadRead, payloadBytes⟩ := slice_of_complete .payload complete
  refine ⟨⟨⟨key, ⟨expiration⟩, ⟨certificate⟩⟩, salt, ⟨payload⟩⟩, ?_, ?_⟩
  · rw [ofBytes, keyRead, expirationRead, certificateRead, saltRead, payloadRead]
    rfl
  · have whole : bytes.take 180 = bytes :=
      List.take_of_length_le (Nat.le_of_eq (complete.trans Component.total_eq))
    simp only [FullSignature.bytes, keyBytes, expirationBytes, certificateBytes, saltBytes,
      payloadBytes]
    change (bytes.drop 0).take 32 ++ (bytes.drop 32).take 4 ++ (bytes.drop 36).take 64 ++
      (bytes.drop 100).take 16 ++ (bytes.drop 116).take 64 = bytes
    rw [List.drop_zero, ← List.take_add, ← List.take_add, ← List.take_add, ← List.take_add, whole]

theorem of_bytes_of_wrong_size {bytes : List UInt8} (wrong : bytes.length ≠ Component.total) :
    ofBytes bytes = .error (.wrongSize bytes.length) := by
  have refused : Component.key.slice bytes = .error (.wrongSize bytes.length) := dif_neg wrong
  rw [ofBytes, refused]
  rfl

theorem of_bytes_eq_ok_iff {bytes : List UInt8} {signature : FullSignature} :
    ofBytes bytes = .ok signature ↔ bytes = signature.bytes := by
  constructor
  · intro read
    by_cases complete : bytes.length = Component.total
    · obtain ⟨found, foundRead, foundBytes⟩ := of_bytes_of_complete complete
      rw [foundRead] at read
      cases read
      exact foundBytes.symm
    · rw [of_bytes_of_wrong_size complete] at read
      cases read
  · rintro rfl
    obtain ⟨found, foundRead, foundBytes⟩ := of_bytes_of_complete signature.length_bytes_eq
    rw [foundRead, eq_of_same_bytes foundBytes]

theorem exists_of_decoded {text : String} {bytes : List UInt8}
    (decoded : Base64.decodeText text = some bytes) (complete : bytes.length = Component.total) :
    ∃ signature : FullSignature, text = signature.base64 ∧ bytes = signature.bytes := by
  obtain ⟨signature, -, same⟩ := of_bytes_of_complete complete
  refine ⟨signature, ?_, same.symm⟩
  rw [FullSignature.base64, same]
  exact Base64.decode_text_eq_some_iff.mp decoded

/-- A signature has one text, and no other text is read as it. -/
theorem of_base64_eq_ok_iff {text : String} {signature : FullSignature} :
    ofBase64 text = .ok signature ↔ text = signature.base64 := by
  rw [ofBase64, FullSignature.base64, ← Base64.decode_text_eq_some_iff]
  cases decoded : Base64.decodeText text with
  | none => simp
  | some bytes =>
      simp only [Option.some.injEq]
      exact of_bytes_eq_ok_iff

theorem of_base64_base64 (signature : FullSignature) : ofBase64 signature.base64 = .ok signature :=
  of_base64_eq_ok_iff.mpr rfl

theorem base64_injective {left right : FullSignature} (same : left.base64 = right.base64) :
    left = right := by
  have read := of_base64_eq_ok_iff.mpr same
  rw [of_base64_base64] at read
  exact Except.ok.inj read

end FullSignature

end SignedResponse
