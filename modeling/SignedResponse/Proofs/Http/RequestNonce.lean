import SignedResponse.Proofs.Http.ResponseFields

/-!
The nonce of a request on its way to the server.

It travels in base64, which every header value can carry and which reads back as it was. So only the
name of the header can stand in its way.
-/

namespace SignedResponse

namespace Method

theorem of_text_eq_ok_iff {text : String} {method : Method} :
    ofText text = .ok method ↔ method.text = text := by
  constructor
  · intro named
    unfold ofText Token.ofText? at named
    split_ifs at named with valid
    cases named
    exact String.ofList_toList
  · rintro rfl
    obtain ⟨⟨chars, nonempty, legal⟩⟩ := method
    have same : (String.ofList chars).toList = chars := String.toList_ofList
    have valid : (String.ofList chars).toList ≠ [] ∧
        (String.ofList chars).toList.all Token.isTokenChar = true := by
      rw [same]
      exact ⟨nonempty, legal⟩
    have token : Token.ofText? (String.ofList chars) = some ⟨chars, nonempty, legal⟩ := by
      rw [Token.ofText?, dif_pos valid, Option.some.injEq, Token.mk.injEq]
      exact same
    rw [text, Token.text, ofText, token]

theorem of_text_eq_error {text : String} (refused : ∀ method : Method, method.text ≠ text) :
    ofText text = .error .method := by
  unfold ofText
  split
  · rename_i token found
    refine absurd (of_text_eq_ok_iff.mp ?_) (refused ⟨token⟩)
    rw [ofText, found]
  · rfl

end Method

/-- There is one header, under this name, and it is legal and reads as this text. -/
def Headers.IsOnly (headers : Headers) (name text : String) : Prop :=
  ∃ field value, headers = ⟨[(field, value)]⟩ ∧ HeaderName.ofText name = .ok field ∧
    HeaderValue.IsContent value.bytes ∧ value.text? = some text

namespace Request

variable {request : Request} {name : String} {nonce : List UInt8}

theorem headers_of_nonce (carried : request.nonce = some nonce)
    (spelling : HeaderName.IsSpelling name) :
    ∃ headers, request.headers name = .ok headers ∧
      headers.IsOnly name (Base64.encodeText nonce) := by
  obtain ⟨field, named⟩ := HeaderName.is_spelling_iff.mp spelling
  have plain : ∀ char ∈ (Base64.encodeText nonce).toList, IsPlain char := fun _ =>
    plain_of_mem_base64
  obtain ⟨value, built, bytes⟩ := HeaderValue.of_bytes_of_plain plain
  refine ⟨⟨[(field, value)]⟩, ?_, field, value, rfl, named, ?_, ?_⟩
  · rw [headers, carried]
    simp only [named, built]
    rfl
  · exact HeaderValue.is_content_iff.mpr value.legal
  · exact HeaderValue.text_of_plain plain bytes

theorem headers_eq_error_iff {error : HttpError} :
    request.headers name = .error error ↔
      error = .headerName ∧ request.nonce.isSome = true ∧ ¬HeaderName.IsSpelling name := by
  cases carried : request.nonce with
  | none =>
      rw [headers, carried]
      exact iff_of_false nofun (by rintro ⟨-, ⟨⟩, -⟩)
  | some nonce =>
      by_cases spelling : HeaderName.IsSpelling name
      · obtain ⟨headers, sent, -⟩ := headers_of_nonce carried spelling
        rw [sent]
        exact iff_of_false nofun fun refused => refused.2.2 spelling
      · have failed : request.headers name = .error .headerName := by
          rw [headers, carried]
          simp only [HeaderName.of_text_of_not_spelling spelling]
          rfl
        rw [failed, Except.error.injEq, eq_comm]
        exact (and_iff_left ⟨rfl, spelling⟩).symm

end Request

end SignedResponse
