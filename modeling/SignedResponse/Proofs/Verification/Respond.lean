import Mathlib.Tactic.Common
import SignedResponse.Proofs.Http.HeaderText
import SignedResponse.Proofs.Verification.Judgement
import SignedResponse.Verification.Respond

/-!
What a server's response carries in its headers, and what a verifier reads there.

Base64 and decimal numbers are plain text. So with usable names and a plain tag a signed response
can always be made, and its headers are read as they were written.
-/

namespace SignedResponse

namespace Response

/-- The first values of the three headers are the signature, the date and the entity tag that it was
made for. Without a tag there is no such header. -/
structure Carries (response : Response) (names : HeaderNames) (signature : FullSignature)
    (parameters : Parameters) : Prop where
  signature : response.headers.first? names.signature = some (Utf8.encode signature.base64)
  requestDate : response.headers.first? names.requestDate =
    some (Utf8.encode (Decimal.text parameters.requestDate.toNat))
  etag : response.headers.first? names.etag = parameters.etag.map Utf8.encode

end Response

/-- The texts name these three headers, no two of which are the same. -/
structure HeaderNames.Separate (names : HeaderNames) (signatureName dateName tagName : HeaderName) :
    Prop where
  signature : HeaderName.ofText names.signature = .ok signatureName
  requestDate : HeaderName.ofText names.requestDate = .ok dateName
  etag : HeaderName.ofText names.etag = .ok tagName
  signature_ne_date : signatureName ≠ dateName
  signature_ne_tag : signatureName ≠ tagName
  date_ne_tag : dateName ≠ tagName

theorem HeaderNames.separate_default :
    ∃ signatureName dateName tagName, HeaderNames.Separate {} signatureName dateName tagName :=
  ⟨_, _, _, rfl, rfl, rfl, by decide, by decide, by decide⟩

namespace Headers

theorem first_of_name {headers : Headers} {text : String} {name : HeaderName}
    (valid : HeaderName.ofText text = .ok name) :
    headers.first? text = (headers.values name).head?.map HeaderValue.bytes := by
  rw [first?, valuesOf, valid]

end Headers

namespace Signer

variable {names : HeaderNames}

theorem headers_of_separate (parameters : Parameters) (signature : FullSignature)
    {signatureName dateName tagName : HeaderName}
    (separate : names.Separate signatureName dateName tagName)
    (plain : ∀ tag ∈ parameters.etag, ∀ char ∈ tag.toList, IsPlain char) :
    ∃ made, headers names parameters signature = .ok made ∧ ∀ status body,
      (Response.mk status made body).Carries names signature parameters := by
  have plainSignature : ∀ char ∈ signature.base64.toList, IsPlain char :=
    fun _ member => plain_of_mem_base64 member
  have plainDate : ∀ char ∈ (Decimal.text parameters.requestDate.toNat).toList, IsPlain char :=
    fun _ member => plain_of_mem_decimal member
  obtain ⟨signatureValue, signatureMade, signatureBytes⟩ :=
    HeaderValue.of_bytes_of_plain plainSignature
  obtain ⟨dateValue, dateMade, dateBytes⟩ := HeaderValue.of_bytes_of_plain plainDate
  let signed := (Headers.empty.append signatureName signatureValue).append dateName dateValue
  have values : ∀ name, signed.values name =
      (if signatureName = name then [signatureValue] else []) ++
        if dateName = name then [dateValue] else [] := by
    intro name
    rw [Headers.values_append, Headers.values_append]
    rfl
  cases tag : parameters.etag with
  | none =>
      refine ⟨signed, ?_, fun status body => ⟨?_, ?_, ?_⟩⟩
      · rw [headers, separate.signature, separate.requestDate, signatureMade, dateMade, tag]
        rfl
      · rw [Headers.first_of_name separate.signature]
        simp [values, signatureBytes]
      · rw [Headers.first_of_name separate.requestDate]
        simp [values, separate.signature_ne_date, dateBytes]
      · rw [Headers.first_of_name separate.etag, tag]
        simp [values, separate.signature_ne_tag, separate.date_ne_tag]
  | some text =>
      obtain ⟨tagValue, tagMade, tagBytes⟩ := HeaderValue.of_bytes_of_plain (plain text tag)
      refine ⟨signed.append tagName tagValue, ?_, fun status body => ⟨?_, ?_, ?_⟩⟩
      · rw [headers, separate.signature, separate.requestDate, separate.etag, signatureMade,
          dateMade, tag]
        change Except.bind (HeaderValue.ofBytes (Utf8.encode text)) _ = _
        rw [tagMade]
        rfl
      · rw [Headers.first_of_name separate.signature]
        simp [Headers.values_append, values, signatureBytes]
      · rw [Headers.first_of_name separate.requestDate]
        simp [Headers.values_append, values, separate.signature_ne_date, dateBytes]
      · rw [Headers.first_of_name separate.etag, tag]
        simp [Headers.values_append, values, separate.signature_ne_tag, separate.date_ne_tag,
          tagBytes]

/-- A server answers whatever the status and the body are, and its answer carries the signature of
what it covers. -/
theorem respond_carries (scheme : SignatureScheme) (signer : Signer) (status : Status)
    (parameters : Parameters) (salt : Block 16) {signatureName dateName tagName : HeaderName}
    (separate : names.Separate signatureName dateName tagName)
    (plain : ∀ tag ∈ parameters.etag, ∀ char ∈ tag.toList, IsPlain char) :
    let covered : Parameters :=
      { parameters with message := if status = .notModified then none else parameters.message }
    ∃ response, signer.respond scheme names status parameters salt = .ok response ∧
      response.status = status ∧ response.body = parameters.message ∧
      response.Carries names (signer.sign scheme covered salt) covered := by
  intro covered
  have signed : (if status = .notModified then { parameters with message := none }
      else parameters) = covered := by
    by_cases same : status = .notModified
    · simp only [covered, same, if_true]
    · simp only [covered, same, if_false]
  obtain ⟨made, madeHeaders, carries⟩ :=
    headers_of_separate covered (signer.sign scheme covered salt) separate plain
  refine ⟨⟨status, made, parameters.message⟩, ?_, rfl, rfl, carries _ _⟩
  rw [respond, signed, madeHeaders]
  rfl

end Signer

namespace Verifier

variable {m : Type → Type} {verifier : Verifier m} {response : Response} {parameters : Parameters}

theorem request_date_of_first
    (first : response.headers.first? verifier.config.headers.requestDate =
      some (Utf8.encode (Decimal.text parameters.requestDate.toNat))) :
    verifier.requestDate? response = some parameters.requestDate := by
  have text : response.header verifier.config.headers.requestDate =
      some (Decimal.text parameters.requestDate.toNat) :=
    Headers.text_of_plain (fun _ member => plain_of_mem_decimal member) first
  have below : parameters.requestDate.toNat < UInt64.size := parameters.requestDate.toNat_lt
  rw [request_date_eq_bind, text, Option.bind_some, Decimal.to_list_text,
    Decimal.read_trim_of_spells (by decide) (Decimal.spells_digits _), if_pos below,
    Option.map_some, UInt64.ofNat_toNat]

theorem header_etag_of_first
    (plain : ∀ tag ∈ parameters.etag, ∀ char ∈ tag.toList, IsPlain char)
    (first : response.headers.first? verifier.config.headers.etag =
      parameters.etag.map Utf8.encode) :
    response.header verifier.config.headers.etag = parameters.etag := by
  cases tag : parameters.etag with
  | none =>
      rw [tag] at first
      exact Headers.text_of_none first
  | some text =>
      rw [tag] at first
      exact Headers.text_of_plain (plain text tag) first

theorem read_of_carries {request : Request} {signature : FullSignature}
    (nonce : parameters.nonce = request.nonce)
    (message : parameters.message = if response.status = .notModified then none else response.body)
    (plain : ∀ tag ∈ parameters.etag, ∀ char ∈ tag.toList, IsPlain char)
    (carries : response.Carries verifier.config.headers signature parameters) :
    response.header verifier.config.headers.signature = some signature.base64 ∧
      verifier.requestDate? response = some parameters.requestDate ∧
        verifier.signedParameters request response parameters.requestDate = parameters := by
  refine ⟨?_, request_date_of_first carries.requestDate, ?_⟩
  · exact Headers.text_of_plain (fun _ member => plain_of_mem_base64 member) carries.signature
  · rw [signedParameters, ← message, ← nonce, header_etag_of_first plain carries.etag]

end Verifier

end SignedResponse
