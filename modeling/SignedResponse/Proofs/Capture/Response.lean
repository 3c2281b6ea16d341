import Mathlib.Tactic.Common
import SignedResponse.Capture.Exchange
import SignedResponse.Proofs.Capture.Headers
import SignedResponse.Proofs.Http.ResponseFields
import SignedResponse.Proofs.Json.Shape

/-!
The response of a captured exchange.

Names in a capture are told apart by letter case and stand in byte order, so the response has their
values in that order and a look-up, which has no letter case, finds the one whose name comes first.
How the document orders its members, and what it says of a name before the last time, is not seen.
-/

namespace SignedResponse.Capture

/-- The names ascend by their bytes. -/
def InByteOrder (capture : Capture) : Prop :=
  capture.headers.Pairwise fun left right => Utf8.encode left.1 < Utf8.encode right.1

def IsHeader (header : String × String) : Prop :=
  HeaderName.IsSpelling header.1 ∧ HeaderValue.IsContent (Utf8.encode header.2)

instance (header : String × String) : Decidable (IsHeader header) :=
  inferInstanceAs (Decidable (_ ∧ _))

/-- The response has what was captured, and a look-up finds the header that comes first. -/
structure ResolvesTo (capture : Capture) (response : Response) : Prop where
  status : response.status.code = capture.status
  body : response.body = capture.body.map Utf8.encode
  values : ∀ name, (response.headers.valuesOf name).map HeaderValue.bytes =
    (capture.headers.filter fun header => SameLetters header.1 name).map fun header =>
      Utf8.encode header.2
  first : ∀ name, ∀ header ∈ capture.headers, SameLetters header.1 name →
    (∀ other ∈ capture.headers, SameLetters other.1 name →
      ¬Utf8.encode other.1 < Utf8.encode header.1) →
    response.header name = if IsPlainText header.2 then some header.2 else none
  absent : ∀ name, (∀ header ∈ capture.headers, ¬SameLetters header.1 name) →
    response.header name = none

/-- Where a document has the headers of a capture: in the member of that name, or as the fifth item
of a sequence. -/
inductive HeadersPlace where
  | member (before after : List (Option String × JsonValue)) (closed : Bool)
  | item (method path nonce status : JsonValue) (after : List JsonValue) (closed : Bool)

def HeadersPlace.document (value : JsonValue) : HeadersPlace → JsonValue
  | .member before after closed => .object (before ++ (some "headers", value) :: after) closed
  | .item method path nonce status after closed =>
      .array ([method, path, nonce, status] ++ value :: after) closed

def headersObject (headers : List (String × String)) : JsonValue :=
  .object (headers.map fun header => (some header.1, .string (some header.2))) true

/-- The same headers in another order without repeated names, or without one whose name stands
again after it. -/
def Rearranged (headers others : List (String × String)) : Prop :=
  headers.Perm others ∧ (headers.map Prod.fst).Nodup ∨
    ∃ before name value after, headers = before ++ (name, value) :: after ∧
      name ∈ after.map Prod.fst ∧ others = before ++ after

section Reading

variable {headers others : List (String × String)} {text other : String} {complete : Bool}
  {capture : Capture}

theorem sort_headers_of_rearranged (rearranged : Rearranged headers others) :
    sortHeaders headers = sortHeaders others := by
  rcases rearranged with ⟨permuted, distinct⟩ | ⟨before, name, value, after, rfl, repeated, rfl⟩
  · exact sort_headers_eq_of_perm permuted distinct
  · exact sort_headers_of_repeated repeated

theorem map_m_map_eq_ok {ε α β : Type} {read : β → Except ε α} {spell : α → β}
    (back : ∀ value, read (spell value) = .ok value) (values : List α) :
    (values.map spell).mapM read = .ok values := by
  rw [List.mapM_map]
  induction values with
  | nil => rfl
  | cons value rest induction =>
      rw [List.mapM_cons, induction, Function.comp_apply, back]
      rfl

theorem read_texts_headers_object (headers : List (String × String)) :
    (headersObject headers).readTexts = .ok headers := by
  rw [headersObject, JsonValue.readTexts, map_m_map_eq_ok]
  · rfl
  · exact fun _ => rfl

/-- The headers are set by the field of that name, which keeps them sorted; every other field
leaves them as they are, and refuses all objects alike. -/
theorem field_cases {field : JsonField Capture} (member : field ∈ shape.fields) :
    field.name = "headers" ∧ (∀ value record, field.set value record =
        value.readTexts.map fun texts => { record with headers := sortHeaders texts }) ∨
      field.name ≠ "headers" ∧
        (∀ value record next, field.set value record = .ok next → next.headers = record.headers) ∧
        ∀ headers others record,
          field.set (headersObject headers) record = field.set (headersObject others) record := by
  simp only [shape, List.mem_cons, List.not_mem_nil, or_false] at member
  rcases member with rfl | rfl | rfl | rfl | rfl | rfl
  case inr.inr.inr.inr.inl =>
    refine Or.inl ⟨rfl, fun value record => ?_⟩
    cases read : value.readTexts <;> simp only [read] <;> rfl
  -- Each other field refuses an object before it looks at the members.
  all_goals
    refine Or.inr ⟨by decide, fun value record next set => ?_, fun _ _ _ => rfl⟩
    obtain ⟨read, -, result⟩ := Except.bind_eq_ok_iff.mp set
    cases result
    rfl

theorem in_byte_order_iff : capture.InByteOrder ↔ InOrder capture.headers := by
  simp only [InByteOrder, InOrder, Utf8.encode_lt_iff]

theorem keeps_in_byte_order : shape.Keeps InByteOrder := by
  intro field member value record next inOrder set
  rcases field_cases member with ⟨-, sets⟩ | ⟨-, leaves, -⟩
  · rw [sets] at set
    cases read : value.readTexts with
    | error error =>
        rw [read] at set
        cases set
    | ok texts =>
        rw [read] at set
        cases set
        exact in_byte_order_iff.mpr (in_order_sort_headers texts)
  · rw [InByteOrder, leaves value record next set]
    exact inOrder

theorem shows_headers : shape.Shows "headers" Capture.headers := by
  intro field member named value record next set
  rcases field_cases member with ⟨same, -⟩ | ⟨-, leaves, -⟩
  · exact absurd same named
  · exact leaves value record next set

theorem alike_headers_object (same : sortHeaders headers = sortHeaders others) :
    shape.Alike (headersObject headers) (headersObject others) := by
  intro field member record
  rcases field_cases member with ⟨-, sets⟩ | ⟨-, -, alike⟩
  · rw [sets, sets, read_texts_headers_object, read_texts_headers_object]
    exact congrArg (fun sorted => Except.ok { record with headers := sorted }) same
  · exact alike headers others record

theorem in_byte_order_of_of_json (parsed : ofJson text = .ok capture) : capture.InByteOrder := by
  obtain ⟨result, read, whole⟩ := Except.bind_eq_ok_iff.mp parsed
  have sorted : result.InByteOrder :=
    JsonShape.holds_of_read keeps_in_byte_order List.Pairwise.nil read
  split_ifs at whole
  cases whole
  exact sorted

theorem headers_of_read {place : HeadersPlace}
    (read : shape.read (place.document (headersObject headers)) = .ok capture) :
    capture.headers = sortHeaders headers := by
  obtain ⟨former, next, field, member, named, set, shown⟩ : ∃ former next, ∃ field ∈ shape.fields,
      field.name = "headers" ∧ field.set (headersObject headers) former = .ok next ∧
        capture.headers = next.headers := by
    cases place with
    | member before after closed =>
        obtain ⟨former, next, read⟩ := JsonShape.view_of_member shows_headers rfl read
        exact ⟨former, next, shape.fields[4], List.getElem_mem _, rfl, read⟩
    | item method path nonce status after closed =>
        have items : shape.readItems closed 0 shape.defaults
            (shape.fields.take 4 ++ shape.fields[4] :: shape.fields.drop 5)
            ([method, path, nonce, status] ++ headersObject headers :: after) = .ok capture := read
        have others : ∀ other ∈ shape.fields.drop 5,
            other ∈ shape.fields ∧ other.name ≠ "headers" := by
          intro other member
          refine ⟨List.mem_of_mem_drop member, ?_⟩
          rw [List.mem_singleton.mp member]
          decide
        obtain ⟨former, next, read⟩ := JsonShape.view_of_item shows_headers rfl others items
        exact ⟨former, next, shape.fields[4], List.getElem_mem _, rfl, read⟩
  rcases field_cases member with ⟨-, sets⟩ | ⟨other, -⟩
  · rw [sets, read_texts_headers_object] at set
    cases set
    exact shown
  · exact absurd named other

/-- A document says of the headers no more than the last value of each name. -/
theorem of_json_eq_of_rearranged {place : HeadersPlace}
    (document : JsonValue.readDocument text.toList =
      (place.document (headersObject headers), complete))
    (otherDocument : JsonValue.readDocument other.toList =
      (place.document (headersObject others), complete))
    (rearranged : Rearranged headers others) : ofJson other = ofJson text := by
  have alike := alike_headers_object (sort_headers_of_rearranged rearranged)
  have same : shape.read (place.document (headersObject headers)) =
      shape.read (place.document (headersObject others)) := by
    cases place with
    | member before after closed =>
        exact JsonShape.read_object_alike alike _ before after closed
    | item method path nonce status after closed =>
        exact JsonShape.read_array_alike alike [method, path, nonce, status] after closed
  rw [ofJson, ofJson, JsonValue.readWhole, JsonValue.readWhole, document, otherDocument]
  dsimp only
  rw [same]

theorem mem_headers_iff_of_of_json {place : HeadersPlace}
    (document : JsonValue.readDocument text.toList =
      (place.document (headersObject headers), complete))
    (parsed : ofJson text = .ok capture) (name value : String) :
    (name, value) ∈ capture.headers ↔ lastValue? headers name = some value := by
  rw [ofJson, JsonValue.readWhole, document] at parsed
  obtain ⟨result, read, whole⟩ := Except.bind_eq_ok_iff.mp parsed
  split_ifs at whole
  cases whole
  rw [headers_of_read read, mem_sort_headers_iff]

end Reading

section Answering

variable {capture : Capture} {response : Response} {header : String × String}

theorem response_eq_ok_iff :
    capture.response = .ok response ↔
      Response.build capture.status capture.fields (capture.body.map Utf8.encode) =
        .ok response := by
  rw [Capture.response]
  cases Response.build capture.status capture.fields (capture.body.map Utf8.encode) with
  | ok built => rw [Except.mapError, Except.ok.injEq, Except.ok.injEq]
  | error fault => exact iff_of_false nofun nofun

theorem response_of_fault {fault : ResponseFault}
    (built : Response.build capture.status capture.fields (capture.body.map Utf8.encode) =
      .error fault) : capture.response = .error (.response fault) := by
  rw [Capture.response, built]
  rfl

theorem exists_split (inOrder : capture.InByteOrder) (member : header ∈ capture.headers) :
    ∃ before after, capture.headers = before ++ header :: after ∧
      ∀ other ∈ before, Utf8.encode other.1 < Utf8.encode header.1 := by
  obtain ⟨before, after, split⟩ := List.append_of_mem member
  rw [InByteOrder, split] at inOrder
  refine ⟨before, after, split, fun other found => ?_⟩
  exact (List.pairwise_append.mp inOrder).2.2 other found header List.mem_cons_self

theorem response_of_bad_header (inOrder : capture.InByteOrder)
    (valid : 100 ≤ capture.status ∧ capture.status ≤ 999) (member : header ∈ capture.headers)
    (refused : ¬IsHeader header)
    (legal : ∀ other ∈ capture.headers, Utf8.encode other.1 < Utf8.encode header.1 →
      IsHeader other) :
    capture.response = .error (.response
      (if HeaderName.IsSpelling header.1 then .headerValue header.1
        else .headerName header.1)) := by
  obtain ⟨before, after, split, smaller⟩ := exists_split inOrder member
  apply response_of_fault
  rw [fields, split, List.map_append, List.map_cons]
  refine Response.build_of_not_field ⟨valid.1, Nat.lt_succ_of_le valid.2⟩ ?_ refused
  rw [List.forall_mem_map]
  intro other found
  exact legal other (split ▸ List.mem_append_left _ found) (smaller other found)

theorem head_of_least (inOrder : capture.InByteOrder) {name : String}
    (member : header ∈ capture.headers) (same : SameLetters header.1 name)
    (least : ∀ other ∈ capture.headers, SameLetters other.1 name →
      ¬Utf8.encode other.1 < Utf8.encode header.1) :
    (capture.headers.filter fun header => SameLetters header.1 name).head? = some header := by
  obtain ⟨before, after, split, smaller⟩ := exists_split inOrder member
  have none : before.filter (fun other => SameLetters other.1 name) = [] := by
    rw [List.filter_eq_nil_iff]
    intro other found equal
    exact least other (split ▸ List.mem_append_left _ found) (of_decide_eq_true equal)
      (smaller other found)
  rw [split, List.filter_append, none, List.nil_append, List.filter_cons,
    if_pos (decide_eq_true same), List.head?_cons]

theorem resolves_to_of_response (inOrder : capture.InByteOrder)
    (answered : capture.response = .ok response) : capture.ResolvesTo response := by
  obtain ⟨-, -, status, reads, body⟩ := Response.build_eq_ok (response_eq_ok_iff.mp answered)
  have values : ∀ name, (response.headers.valuesOf name).map HeaderValue.bytes =
      (capture.headers.filter fun header => SameLetters header.1 name).map fun header =>
        Utf8.encode header.2 := by
    intro name
    have bytes := Headers.map_bytes_values_of reads name
    rw [fields, List.filter_map, List.map_map] at bytes
    exact bytes
  refine ⟨status, body, values, fun name header member same least => ?_, fun name none => ?_⟩
  · have head : (response.headers.valuesOf name).head?.map HeaderValue.bytes =
        some (Utf8.encode header.2) := by
      rw [← List.head?_map, values, List.head?_map, head_of_least inOrder member same least]
      rfl
    obtain ⟨value, found, bytes⟩ := Option.map_eq_some_iff.mp head
    rw [Response.header, Headers.text?, found]
    exact HeaderValue.text_of_encoded bytes
  · have empty : response.headers.valuesOf name = [] := by
      rw [← List.map_eq_nil_iff, values, List.map_eq_nil_iff, List.filter_eq_nil_iff]
      intro header member same
      exact none header member (of_decide_eq_true same)
    rw [Response.header, Headers.text?, empty]
    rfl

theorem exists_response_iff :
    (∃ response, capture.response = .ok response) ↔
      (100 ≤ capture.status ∧ capture.status ≤ 999) ∧
        ∀ header ∈ capture.headers, IsHeader header := by
  have legal : (∀ field ∈ capture.fields, Response.IsField field) ↔
      ∀ header ∈ capture.headers, IsHeader header := List.forall_mem_map
  simp only [response_eq_ok_iff, ← legal]
  constructor
  · rintro ⟨response, built⟩
    obtain ⟨valid, fields, -⟩ := Response.build_eq_ok built
    exact ⟨⟨valid.1, Nat.le_of_lt_succ valid.2⟩, fields⟩
  · rintro ⟨valid, fields⟩
    obtain ⟨entries, reads⟩ := Response.exists_reads_as fields
    exact ⟨_, Response.build_of_reads_as ⟨valid.1, Nat.lt_succ_of_le valid.2⟩ reads⟩

end Answering

/-- Captured headers resolve in one way. A response comes of a status of three digits and legal
headers, or else the first fault is told: the status, or the least header that is not legal, its
name before its value. Each look-up finds the values of the names that have its letters, in byte
order, and reads the first of them. Of the document only the last value of each name counts. -/
theorem captured_headers_resolve :
    (∀ text capture, ofJson text = .ok capture → capture.InByteOrder) ∧
    (∀ capture : Capture, capture.InByteOrder →
      ((∃ response, capture.response = .ok response) ↔
        (100 ≤ capture.status ∧ capture.status ≤ 999) ∧
          ∀ header ∈ capture.headers, IsHeader header) ∧
      (¬(100 ≤ capture.status ∧ capture.status ≤ 999) →
        capture.response = .error (.response (.status capture.status))) ∧
      (100 ≤ capture.status ∧ capture.status ≤ 999 →
        ∀ header ∈ capture.headers, ¬IsHeader header →
          (∀ other ∈ capture.headers, Utf8.encode other.1 < Utf8.encode header.1 →
            IsHeader other) →
          capture.response = .error (.response
            (if HeaderName.IsSpelling header.1 then .headerValue header.1
              else .headerName header.1))) ∧
      ∀ response, capture.response = .ok response → capture.ResolvesTo response) ∧
    ∀ (place : HeadersPlace) headers text complete,
      JsonValue.readDocument text.toList = (place.document (headersObject headers), complete) →
      (∀ capture, ofJson text = .ok capture → ∀ name value,
        (name, value) ∈ capture.headers ↔ lastValue? headers name = some value) ∧
      ∀ others other,
        JsonValue.readDocument other.toList = (place.document (headersObject others), complete) →
        Rearranged headers others → ofJson other = ofJson text := by
  refine ⟨fun text capture => in_byte_order_of_of_json, fun capture inOrder => ?_, ?_⟩
  · refine ⟨exists_response_iff, fun invalid => ?_, fun valid header => ?_, fun response => ?_⟩
    · apply response_of_fault
      exact Response.build_of_bad_status fun valid =>
        invalid ⟨valid.1, Nat.le_of_lt_succ valid.2⟩
    · exact response_of_bad_header inOrder valid
    · exact resolves_to_of_response inOrder
  · intro place headers text complete document
    refine ⟨fun capture => mem_headers_iff_of_of_json document, fun others other => ?_⟩
    exact of_json_eq_of_rearranged document

/-- A document with two spellings of one name; the capital one comes first by its bytes. -/
def spelledTwice : String :=
  "\x7b\"status\":200,\"headers\":\x7b\"x-signature\":\"lower\",\"X-Signature\":\"upper\"\x7d\x7d"

def spelledTwiceSwapped : String :=
  "\x7b\"status\":200,\"headers\":\x7b\"X-Signature\":\"upper\",\"x-signature\":\"lower\"\x7d\x7d"

theorem spelled_twice_resolves :
    ∃ capture response, ofJson spelledTwice = .ok capture ∧ capture.InByteOrder ∧
      capture.response = .ok response ∧ capture.ResolvesTo response ∧
      response.header "x-signature" = some "upper" ∧
      ofJson spelledTwiceSwapped = ofJson spelledTwice := by
  obtain ⟨sorted, answers, documents⟩ := captured_headers_resolve
  let capture : Capture :=
    { status := 200, headers := [("X-Signature", "upper"), ("x-signature", "lower")] }
  have parsed : ofJson spelledTwice = .ok capture :=
    Except.eq_ok_of_to_option (by decide +kernel)
  have inOrder := sorted spelledTwice capture parsed
  obtain ⟨succeeds, -, -, resolves⟩ := answers capture inOrder
  obtain ⟨response, answered⟩ := succeeds.mpr ⟨by decide, by decide⟩
  have resolved := resolves response answered
  have read := resolved.first "x-signature" ("X-Signature", "upper") List.mem_cons_self
    (by decide) (by decide)
  let place : HeadersPlace :=
    .member [(some "status", .number { negative := false, integer := ['2', '0', '0'] })] [] true
  have document : JsonValue.readDocument spelledTwice.toList = (place.document
      (headersObject [("x-signature", "lower"), ("X-Signature", "upper")]), true) := by
    decide +kernel
  have swapped : JsonValue.readDocument spelledTwiceSwapped.toList = (place.document
      (headersObject [("X-Signature", "upper"), ("x-signature", "lower")]), true) := by
    decide +kernel
  have rearranged := (documents place _ spelledTwice true document).2 _ _ swapped
    (Or.inl ⟨.swap .., by decide⟩)
  exact ⟨capture, response, parsed, inOrder, answered, resolved,
    read.trans (if_pos (by decide)), rearranged⟩

end SignedResponse.Capture
