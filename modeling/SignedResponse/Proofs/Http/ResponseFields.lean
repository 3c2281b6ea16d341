import Mathlib.Data.List.Forall2
import SignedResponse.Http.Exchange
import SignedResponse.Proofs.Http.HeaderLookup
import SignedResponse.Proofs.Http.HeaderText

/-!
A response put together from the fields that came with it.

Fields are taken in order. As long as they are legal every field becomes one entry, under the name
that it has in lower case; the first one that is not ends the reading.
-/

namespace SignedResponse

theorem Token.to_nat_lt_of_is_token_char {char : Char} (legal : isTokenChar char = true) :
    char.toNat < 128 := by
  rcases Bool.or_eq_true_iff.mp legal with alphanum | mark
  · rcases Bool.or_eq_true_iff.mp alphanum with alpha | digit
    · rcases Bool.or_eq_true_iff.mp alpha with upper | lower
      · have bound : char.val.toNat ≤ 90 := (of_decide_eq_true upper).2
        exact Nat.lt_of_le_of_lt bound (by decide)
      · have bound : char.val.toNat ≤ 122 := of_decide_eq_true (Bool.and_eq_true_iff.mp lower).2
        exact Nat.lt_of_le_of_lt bound (by decide)
    · exact Nat.lt_of_le_of_lt (Char.isDigit_iff_toNat.mp digit).2 (by decide)
  · have table : ("!#$%&'*+-.^_\x60|~".toList.all fun other => other.toNat < 128) = true := by
      decide
    exact of_decide_eq_true (List.all_eq_true.mp table char (List.contains_iff_mem.mp mark))

namespace HeaderName

/-- A header name in any letter case: a token of 1 to 65535 bytes. -/
def IsSpelling (text : String) : Prop :=
  (∀ char ∈ text.toList, Token.isTokenChar char = true) ∧
    1 ≤ (Utf8.encode text).length ∧ (Utf8.encode text).length ≤ 65535

instance (text : String) : Decidable (IsSpelling text) :=
  @instDecidableAnd _ _ (List.decidableBAll _ _) inferInstance

theorem length_encode_of_token {text : String}
    (token : ∀ char ∈ text.toList, Token.isTokenChar char = true) :
    (Utf8.encode text).length = text.toList.length := by
  rw [Utf8.encode_ascii fun char member => Token.to_nat_lt_of_is_token_char (token char member),
    List.length_map]

theorem is_spelling_iff {text : String} : IsSpelling text ↔ ∃ name, ofText text = .ok name := by
  constructor
  · rintro ⟨token, nonempty, fits⟩
    rw [length_encode_of_token token] at nonempty fits
    have lower : (text.toList.map Char.toLower).length ≤ maxLength := by
      rw [List.length_map]
      exact fits
    have found : Token.ofText? text = some ⟨text.toList, List.ne_nil_of_length_pos nonempty,
        List.all_eq_true.mpr token⟩ :=
      dif_pos ⟨List.ne_nil_of_length_pos nonempty, List.all_eq_true.mpr token⟩
    rw [ofText, found]
    exact ⟨_, dif_pos lower⟩
  · rintro ⟨name, named⟩
    unfold ofText Token.ofText? at named
    split_ifs at named with valid
    · dsimp only at named
      split_ifs at named with fits
      · have token := List.all_eq_true.mp valid.2
        have bound : (text.toList.map Char.toLower).length ≤ maxLength := fits
        rw [List.length_map] at bound
        rw [IsSpelling, length_encode_of_token token]
        exact ⟨token, List.length_pos_iff.mpr valid.1, bound⟩

theorem of_text_of_not_spelling {text : String} (refused : ¬IsSpelling text) :
    ofText text = .error .headerName := by
  cases named : ofText text with
  | ok name => exact absurd (is_spelling_iff.mpr ⟨name, named⟩) refused
  | error error => rw [of_text_eq_error named]

end HeaderName

namespace HeaderValue

def IsContent (bytes : List UInt8) : Prop :=
  ∀ byte ∈ bytes, byte = 9 ∨ 0x20 ≤ byte ∧ byte ≠ 0x7F

instance (bytes : List UInt8) : Decidable (IsContent bytes) := List.decidableBAll _ _

theorem is_content_iff {bytes : List UInt8} : IsContent bytes ↔ bytes.all isLegal = true := by
  simp only [IsContent, List.all_eq_true, isLegal, tab, Bool.or_eq_true, Bool.and_eq_true,
    beq_iff_eq, bne_iff_ne, decide_eq_true_eq]

end HeaderValue

namespace Response

def IsField (field : String × List UInt8) : Prop :=
  HeaderName.IsSpelling field.1 ∧ HeaderValue.IsContent field.2

instance (field : String × List UInt8) : Decidable (IsField field) :=
  inferInstanceAs (Decidable (_ ∧ _))

/-- What is wrong with a field that a response cannot have: its name, or else its value. -/
def fieldFault (field : String × List UInt8) : ResponseFault :=
  if HeaderName.IsSpelling field.1 then .headerValue field.1 else .headerName field.1

def ReadsAs (field : String × List UInt8) (entry : HeaderName × HeaderValue) : Prop :=
  HeaderName.ofText field.1 = .ok entry.1 ∧ entry.2.bytes = field.2

def addField (headers : Headers) (field : String × List UInt8) : Except ResponseFault Headers := do
  let name ← (HeaderName.ofText field.1).mapError fun _ => .headerName field.1
  let value ← (HeaderValue.ofBytes field.2).mapError fun _ => .headerValue field.1
  return headers.append name value

variable {field : String × List UInt8} {fields : List (String × List UInt8)}
  {entry : HeaderName × HeaderValue} {entries : List (HeaderName × HeaderValue)}
  {headers : Headers} {status : Nat} {body : Option (List UInt8)}

theorem is_field_iff : IsField field ↔ ∃ entry, ReadsAs field entry := by
  rw [IsField, HeaderName.is_spelling_iff, HeaderValue.is_content_iff]
  constructor
  · rintro ⟨⟨name, named⟩, legal⟩
    exact ⟨(name, ⟨field.2, legal⟩), named, rfl⟩
  · rintro ⟨⟨name, value⟩, named, same⟩
    exact ⟨⟨name, named⟩, same ▸ value.legal⟩

theorem add_field_of_reads_as (reads : ReadsAs field entry) :
    addField headers field = .ok ⟨headers.fields ++ [entry]⟩ := by
  obtain ⟨named, same⟩ := reads
  have content : HeaderValue.ofBytes field.2 = .ok entry.2 := by
    rw [← same]
    exact dif_pos entry.2.legal
  rw [addField, named, content]
  rfl

theorem add_field_of_not_field (refused : ¬IsField field) :
    addField headers field = .error (fieldFault field) := by
  rw [addField, fieldFault]
  by_cases spelled : HeaderName.IsSpelling field.1
  · obtain ⟨name, named⟩ := HeaderName.is_spelling_iff.mp spelled
    have illegal : ¬field.2.all HeaderValue.isLegal = true := fun legal =>
      refused ⟨spelled, HeaderValue.is_content_iff.mpr legal⟩
    have content : HeaderValue.ofBytes field.2 = .error .headerValue := dif_neg illegal
    rw [if_pos spelled, named, content]
    rfl
  · rw [if_neg spelled, HeaderName.of_text_of_not_spelling spelled]
    rfl

theorem foldl_m_add_field_of_reads_as (reads : List.Forall₂ ReadsAs fields entries) :
    fields.foldlM addField headers = .ok ⟨headers.fields ++ entries⟩ := by
  induction reads generalizing headers with
  | nil =>
      rw [List.append_nil]
      rfl
  | cons first _ induction =>
      rw [List.foldlM_cons, add_field_of_reads_as first]
      refine induction.trans ?_
      rw [List.append_assoc]
      rfl

theorem foldl_m_add_field_of_not_field {before after : List (String × List UInt8)}
    (legal : ∀ other ∈ before, IsField other) (refused : ¬IsField field) :
    (before ++ field :: after).foldlM addField headers = .error (fieldFault field) := by
  induction before generalizing headers with
  | nil =>
      rw [List.nil_append, List.foldlM_cons, add_field_of_not_field refused]
      rfl
  | cons first rest induction =>
      obtain ⟨entry, reads⟩ := is_field_iff.mp (legal first List.mem_cons_self)
      rw [List.cons_append, List.foldlM_cons, add_field_of_reads_as reads]
      exact induction fun other member => legal other (List.mem_cons_of_mem _ member)

theorem build_of_status (valid : 100 ≤ status ∧ status < 1000) :
    build status fields body =
      (fields.foldlM addField Headers.empty).map fun headers =>
        { status := ⟨status, valid⟩, headers, body } := by
  have code : Status.ofCode status = .ok ⟨status, valid⟩ := dif_pos valid
  rw [build, code]
  change (fields.foldlM addField Headers.empty).bind _ = _
  cases fields.foldlM addField Headers.empty <;> rfl

theorem build_of_bad_status (invalid : ¬(100 ≤ status ∧ status < 1000)) :
    build status fields body = .error (.status status) := by
  have code : Status.ofCode status = .error .status := dif_neg invalid
  rw [build, code]
  rfl

theorem build_of_reads_as (valid : 100 ≤ status ∧ status < 1000)
    (reads : List.Forall₂ ReadsAs fields entries) :
    build status fields body =
      .ok { status := ⟨status, valid⟩, headers := ⟨entries⟩, body } := by
  rw [build_of_status valid, foldl_m_add_field_of_reads_as reads]
  rfl

theorem build_of_not_field {before after : List (String × List UInt8)}
    (valid : 100 ≤ status ∧ status < 1000) (legal : ∀ other ∈ before, IsField other)
    (refused : ¬IsField field) :
    build status (before ++ field :: after) body = .error (fieldFault field) := by
  rw [build_of_status valid, foldl_m_add_field_of_not_field legal refused]
  rfl

theorem exists_reads_as (legal : ∀ field ∈ fields, IsField field) :
    ∃ entries, List.Forall₂ ReadsAs fields entries := by
  induction fields with
  | nil => exact ⟨[], .nil⟩
  | cons first rest induction =>
      obtain ⟨entry, reads⟩ := is_field_iff.mp (legal first List.mem_cons_self)
      obtain ⟨entries, others⟩ := induction fun field member =>
        legal field (List.mem_cons_of_mem _ member)
      exact ⟨entry :: entries, .cons reads others⟩

theorem exists_first_not_field (illegal : ¬∀ field ∈ fields, IsField field) :
    ∃ before bad after, fields = before ++ bad :: after ∧ (∀ other ∈ before, IsField other) ∧
      ¬IsField bad := by
  cases found : fields.find? fun field => ¬IsField field with
  | none =>
      rw [List.find?_eq_none] at found
      refine absurd (fun field member => ?_) illegal
      exact not_not.mp fun refused => found field member (decide_eq_true refused)
  | some bad =>
      obtain ⟨refused, before, after, rfl, legal⟩ := List.find?_eq_some_iff_append.mp found
      refine ⟨before, bad, after, rfl, fun other member => ?_, of_decide_eq_true refused⟩
      have kept := legal other member
      rw [Bool.not_eq_true', decide_eq_false_iff_not, not_not] at kept
      exact kept

/-- A response that is built has a status of three digits and an entry for every field. -/
theorem build_eq_ok {response : Response} (built : build status fields body = .ok response) :
    (100 ≤ status ∧ status < 1000) ∧ (∀ field ∈ fields, IsField field) ∧
      response.status.code = status ∧ List.Forall₂ ReadsAs fields response.headers.fields ∧
      response.body = body := by
  by_cases valid : 100 ≤ status ∧ status < 1000
  · by_cases legal : ∀ field ∈ fields, IsField field
    · obtain ⟨entries, reads⟩ := exists_reads_as legal
      rw [build_of_reads_as valid reads] at built
      cases built
      exact ⟨valid, legal, rfl, reads, rfl⟩
    · obtain ⟨before, bad, after, rfl, others, refused⟩ := exists_first_not_field legal
      rw [build_of_not_field valid others refused] at built
      cases built
  · rw [build_of_bad_status valid] at built
    cases built

end Response

namespace Headers

variable {fields : List (String × List UInt8)} {entries : List (HeaderName × HeaderValue)}

theorem values_of_cons (entry : HeaderName × HeaderValue) (text : String) :
    (Headers.mk (entry :: entries)).valuesOf text =
      if HeaderName.ofText text = .ok entry.1 then entry.2 :: (Headers.mk entries).valuesOf text
      else (Headers.mk entries).valuesOf text := by
  cases named : HeaderName.ofText text with
  | ok name =>
      rw [values_of_of_named named, values_of_of_named named]
      by_cases same : entry.1 = name
      · simp [values, same]
      · simp [values, same, Ne.symm same]
  | error error =>
      have noName : (Except.error error : Except HttpError HeaderName) ≠ .ok entry.1 := by
        intro same
        cases same
      rw [if_neg noName, valuesOf, valuesOf, named]

theorem map_bytes_values_of (reads : List.Forall₂ Response.ReadsAs fields entries) (text : String) :
    ((Headers.mk entries).valuesOf text).map HeaderValue.bytes =
      (fields.filter fun field => SameLetters field.1 text).map Prod.snd := by
  induction reads with
  | nil =>
      cases named : HeaderName.ofText text <;> rw [valuesOf, named] <;> rfl
  | @cons field entry _ _ first _ induction =>
      have same : HeaderName.ofText text = .ok entry.1 ↔ SameLetters field.1 text := by
        rw [SameLetters, HeaderName.of_text_eq_ok_iff.mp first.1, HeaderName.of_text_eq_ok_iff]
        exact eq_comm
      rw [values_of_cons]
      by_cases equal : SameLetters field.1 text
      · rw [if_pos (same.mpr equal), List.filter_cons, if_pos (decide_eq_true equal),
          List.map_cons, List.map_cons, induction, first.2]
      · rw [if_neg (mt same.mp equal), List.filter_cons, if_neg (mt of_decide_eq_true equal),
          induction]

end Headers

end SignedResponse
