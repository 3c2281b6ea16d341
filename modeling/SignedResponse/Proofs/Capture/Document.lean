import SignedResponse.Proofs.Capture.Response
import SignedResponse.Proofs.Json.Part

/-!
Which documents are captures, and what they say.

Of the members of a document six names are known. Each stands there once at most, and what it says
is one part of the capture; the order of the members and members of other names make no difference.
-/

namespace SignedResponse.Capture

open JsonShape (valuesOf)
open JsonValue (Give IsDocument IsText IsOptionalText)

def names : List String := ["method", "path", "nonce", "status", "headers", "body"]

def IsStatus (value : JsonValue) (status : Nat) : Prop :=
  ∃ literal, value = .number literal ∧ literal.IsNatural status ∧ status ≤ 65535

/-- An object of texts, of which the last one of each name counts. -/
def IsHeaders (value : JsonValue) (headers : List (String × String)) : Prop :=
  ∃ texts, value = headersObject texts ∧ headers = sortHeaders texts

/-- The members make up a capture. -/
structure IsTaken (members : List (Option String × JsonValue)) : Prop where
  named : ∀ member ∈ members, ∃ name, member.1 = some name
  once : ∀ name ∈ names, (valuesOf members name).length ≤ 1
  method : ∀ value ∈ valuesOf members "method", ∃ method, value.IsText method
  path : ∀ value ∈ valuesOf members "path", ∃ path, value.IsText path
  nonce : ∀ value ∈ valuesOf members "nonce", ∃ nonce, value.IsOptionalText nonce
  status : ∃ value status, valuesOf members "status" = [value] ∧ IsStatus value status
  headers : ∀ value ∈ valuesOf members "headers", ∃ headers, IsHeaders value headers
  body : ∀ value ∈ valuesOf members "body", ∃ body, value.IsOptionalText body

/-- What the members say of each part; what they leave out is the default. -/
structure Tells (members : List (Option String × JsonValue)) (capture : Capture) : Prop where
  named : ∀ member ∈ members, ∃ name, member.1 = some name
  method : Give IsText "GET" (valuesOf members "method") capture.method
  path : Give IsText "/" (valuesOf members "path") capture.path
  nonce : Give IsOptionalText none (valuesOf members "nonce") capture.nonce
  status : ∃ value, valuesOf members "status" = [value] ∧ IsStatus value capture.status
  headers : Give IsHeaders [] (valuesOf members "headers") capture.headers
  body : Give IsOptionalText none (valuesOf members "body") capture.body

/-- The members of known names are the same, in whatever order and among whatever others. -/
def SameParts (members others : List (Option String × JsonValue)) : Prop :=
  (members.filter fun member => member.1 ∈ names.map some).Perm
    (others.filter fun member => member.1 ∈ names.map some)

section Headers

variable {value : JsonValue} {headers texts : List (String × String)}

theorem forall₂_of_map_m {ε α β : Type} {read : α → Except ε β} {values : List α}
    {results : List β} (reads : values.mapM read = .ok results) :
    List.Forall₂ (fun value result => read value = .ok result) values results := by
  induction values generalizing results with
  | nil =>
      cases reads
      exact .nil
  | cons value rest induction =>
      rw [List.mapM_cons] at reads
      obtain ⟨first, isFirst, reads⟩ := Except.bind_eq_ok_iff.mp reads
      obtain ⟨others, areOthers, reads⟩ := Except.bind_eq_ok_iff.mp reads
      cases reads
      exact .cons isFirst (induction areOthers)

theorem read_texts_eq_ok_iff : value.readTexts = .ok texts ↔ value = headersObject texts := by
  constructor
  · intro read
    unfold JsonValue.readTexts at read
    split at read
    · rename_i members closed
      obtain ⟨found, entries, read⟩ := Except.bind_eq_ok_iff.mp read
      split_ifs at read with closes
      cases read
      have same : members = texts.map fun entry => (some entry.1, .string (some entry.2)) := by
        rw [← List.forall₂_eq_eq_eq, List.forall₂_map_right_iff]
        refine (forall₂_of_map_m entries).imp fun member entry read => ?_
        obtain ⟨_ | key, item⟩ := member
        · cases read
        · obtain ⟨text, isText, same⟩ := Except.bind_eq_ok_iff.mp read
          cases same
          rw [JsonValue.read_text_eq_ok_iff.mp isText]
      rw [same, closes]
      rfl
    · cases read
  · rintro rfl
    exact read_texts_headers_object texts

end Headers

section Parts

theorem read_status_eq_ok_iff {value : JsonValue} {status : Nat} :
    value.readNatural 65536 "u16" = .ok status ↔ IsStatus value status := by
  rw [JsonValue.read_natural_eq_ok_iff (by decide)]
  simp only [IsStatus, Nat.lt_succ_iff]

theorem read_headers_eq_ok_iff {value : JsonValue} {headers : List (String × String)} :
    value.readTexts.map sortHeaders = .ok headers ↔ IsHeaders value headers := by
  constructor
  · intro read
    cases known : value.readTexts with
    | error fault =>
        rw [known] at read
        cases read
    | ok texts =>
        rw [known] at read
        cases read
        exact ⟨texts, read_texts_eq_ok_iff.mp known, rfl⟩
  · rintro ⟨texts, rfl, rfl⟩
    rw [read_texts_headers_object]
    rfl

theorem set_headers (value : JsonValue) (record : Capture) :
    shape.fields[4].set value record =
      (value.readTexts.map sortHeaders).bind fun headers => .ok { record with headers } := by
  change value.readTexts.bind
    (fun texts => .ok { record with headers := sortHeaders texts }) = _
  cases value.readTexts <;> rfl

def parts : List (JsonPart Capture) :=
  [.text shape.fields[0] method (fun method capture => { capture with method }) (fun _ _ => rfl)
      fun _ _ => rfl,
    .text shape.fields[1] path (fun path capture => { capture with path }) (fun _ _ => rfl)
      fun _ _ => rfl,
    .optionalText shape.fields[2] nonce (fun nonce capture => { capture with nonce })
      (fun _ _ => rfl) fun _ _ => rfl,
    ⟨Nat, shape.fields[3], status, fun status capture => { capture with status },
      JsonValue.readNatural 65536 "u16", IsStatus, fun _ _ => rfl, fun _ _ => rfl,
      fun _ _ => read_status_eq_ok_iff⟩,
    ⟨List (String × String), shape.fields[4], headers,
      fun headers capture => { capture with headers }, fun value => value.readTexts.map sortHeaders,
      IsHeaders, set_headers, fun _ _ => rfl, fun _ _ => read_headers_eq_ok_iff⟩,
    .optionalText shape.fields[5] body (fun body capture => { capture with body })
      (fun _ _ => rfl) fun _ _ => rfl]

theorem is_made_of_parts : shape.IsMadeOf parts := by
  refine ⟨rfl, by decide, ?_, fun left right same => ?_⟩
  · -- Two different fields of a record are put in place one without the other.
    intro part member other otherMember different meant record
    simp only [parts, List.mem_cons, List.not_mem_nil, or_false] at member otherMember
    rcases member with rfl | rfl | rfl | rfl | rfl | rfl
    all_goals
      rcases otherMember with rfl | rfl | rfl | rfl | rfl | rfl
      all_goals
        first
          | rfl
          | exact absurd rfl different
  · simp only [parts, List.forall_mem_cons] at same
    obtain ⟨method, path, nonce, status, headers, body, -⟩ := same
    cases left
    cases right
    rw [Capture.mk.injEq]
    exact ⟨method, path, nonce, status, headers, body⟩

end Parts

section Reading

variable {text other : String} {members others : List (Option String × JsonValue)}
  {capture : Capture}

theorem read_eq_ok_iff :
    shape.read (.object members true) = .ok capture ↔ Tells members capture := by
  rw [JsonShape.read_object_eq_ok_iff is_made_of_parts]
  simp only [parts, List.forall_mem_cons]
  constructor
  · rintro ⟨named, ⟨method, -⟩, ⟨path, -⟩, ⟨nonce, -⟩, ⟨status, present⟩, ⟨headers, -⟩,
      ⟨body, -⟩, -⟩
    exact ⟨named, method, path, nonce, status.ne_nil_iff.mp (present rfl), headers, body⟩
  · rintro ⟨named, method, path, nonce, ⟨value, only, isStatus⟩, headers, body⟩
    have status : Give IsStatus 0 (valuesOf members "status") capture.status :=
      only ▸ .present isStatus
    exact ⟨named, ⟨method, nofun⟩, ⟨path, nofun⟩, ⟨nonce, nofun⟩,
      ⟨status, fun _ => status.ne_nil_iff.mpr ⟨value, only, isStatus⟩⟩, ⟨headers, nofun⟩,
      ⟨body, nofun⟩, nofun⟩

theorem exists_tells_iff : (∃ capture, Tells members capture) ↔ IsTaken members := by
  constructor
  · rintro ⟨capture, named, method, path, nonce, ⟨value, only, isStatus⟩, headers, body⟩
    refine ⟨named, ?_, method.exists_part, path.exists_part, nonce.exists_part, ?_,
      headers.exists_part, body.exists_part⟩
    · simp only [names, List.forall_mem_cons]
      refine ⟨method.length_le, path.length_le, nonce.length_le, ?_, headers.length_le,
        body.length_le, nofun⟩
      rw [only, List.length_singleton]
    · exact ⟨value, capture.status, only, isStatus⟩
  · rintro ⟨named, once, isMethod, isPath, isNonce, ⟨value, status, only, isStatus⟩, areHeaders,
      isBody⟩
    simp only [names, List.forall_mem_cons] at once
    obtain ⟨oneMethod, onePath, oneNonce, -, oneHeaders, oneBody, -⟩ := once
    obtain ⟨method, givesMethod⟩ := Give.exists_of_length_le "GET" oneMethod isMethod
    obtain ⟨path, givesPath⟩ := Give.exists_of_length_le "/" onePath isPath
    obtain ⟨nonce, givesNonce⟩ := Give.exists_of_length_le none oneNonce isNonce
    obtain ⟨headers, givesHeaders⟩ := Give.exists_of_length_le [] oneHeaders areHeaders
    obtain ⟨body, givesBody⟩ := Give.exists_of_length_le none oneBody isBody
    exact ⟨⟨method, path, nonce, status, headers, body⟩, named, givesMethod, givesPath, givesNonce,
      ⟨value, only, isStatus⟩, givesHeaders, givesBody⟩

theorem of_json_eq_ok_iff (document : IsDocument text.toList (.object members true)) :
    ofJson text = .ok capture ↔ Tells members capture := by
  rw [ofJson, JsonValue.read_whole_of_is_document _ document, read_eq_ok_iff]

theorem perm_values_of (same : SameParts members others) {name : String} (known : name ∈ names) :
    (valuesOf members name).Perm (valuesOf others name) := by
  have only : ∀ row : List (Option String × JsonValue),
      valuesOf (row.filter fun member => member.1 ∈ names.map some) name = valuesOf row name := by
    intro row
    rw [valuesOf, List.filter_filter, valuesOf]
    congr 1
    apply List.filter_congr
    rintro ⟨other, value⟩ -
    by_cases equal : other = some name
    · subst equal
      simp [known]
    · simp [equal]
  rw [← only members, ← only others]
  exact (same.filter _).map Prod.snd

theorem eq_of_perm_of_length_le {values others : List JsonValue} (permuted : values.Perm others)
    (once : values.length ≤ 1) : others = values := by
  match values with
  | [] => exact permuted.nil_eq.symm
  | [value] => exact (List.singleton_perm.mp permuted).symm
  | _ :: _ :: _ => simp at once

theorem tells_of_same_parts (named : ∀ member ∈ others, ∃ name, member.1 = some name)
    (same : SameParts members others) (tells : Tells members capture) : Tells others capture := by
  obtain ⟨-, method, path, nonce, ⟨value, only, isStatus⟩, headers, body⟩ := tells
  have values_eq : ∀ name ∈ names, (valuesOf members name).length ≤ 1 →
      valuesOf others name = valuesOf members name := fun name known =>
    eq_of_perm_of_length_le (perm_values_of same known)
  refine ⟨named, ?_, ?_, ?_, ⟨value, ?_, isStatus⟩, ?_, ?_⟩
  · rwa [values_eq "method" (by decide) method.length_le]
  · rwa [values_eq "path" (by decide) path.length_le]
  · rwa [values_eq "nonce" (by decide) nonce.length_le]
  · rw [values_eq "status" (by decide) (by rw [only, List.length_singleton]), only]
  · rwa [values_eq "headers" (by decide) headers.length_le]
  · rwa [values_eq "body" (by decide) body.length_le]

end Reading

/-- Which objects are captures, and what they say. Of a valid document that is an object a capture
is read when its names are texts, each of the six names stands there once at most, there is a status
of sixteen bits, and the other values are of their kinds. The capture has what the values mean, and
the defaults where there are none. Any other document with the same members of these names, in
another order and among other members, is read as the same capture. -/
theorem capture_document_format :
    ∀ text members, IsDocument text.toList (.object members true) →
      ((∃ capture, ofJson text = .ok capture) ↔ IsTaken members) ∧
      (∀ capture, ofJson text = .ok capture ↔ Tells members capture) ∧
      ∀ other others, IsDocument other.toList (.object others true) →
        (∀ member ∈ members ++ others, ∃ name, member.1 = some name) → SameParts members others →
        ∀ capture, ofJson other = .ok capture ↔ ofJson text = .ok capture := by
  intro text members document
  refine ⟨?_, fun capture => of_json_eq_ok_iff document, fun other others otherDocument named same
    capture => ?_⟩
  · simp only [of_json_eq_ok_iff document, exists_tells_iff]
  · rw [List.forall_mem_append] at named
    rw [of_json_eq_ok_iff document, of_json_eq_ok_iff otherDocument]
    exact ⟨tells_of_same_parts named.1 same.symm, tells_of_same_parts named.2 same⟩

def plainDocument : String := "\x7b\"status\":304,\"body\":null\x7d"

def mixedDocument : String :=
  "\x7b\"note\":[\x7b\"status\":1\x7d],\"body\":null,\"st\\u0061tus\":304\x7d"

theorem mixed_document_is_read :
    ofJson plainDocument = .ok { status := 304 } ∧
      ofJson mixedDocument = .ok { status := 304 } := by
  let status : JsonLiteral := { negative := false, integer := ['3', '0', '4'] }
  let one : JsonLiteral := { negative := false, integer := ['1'] }
  have document : IsDocument plainDocument.toList
      (.object [(some "status", .number status), (some "body", .null)] true) :=
    JsonValue.read_document_eq_iff.mp (by decide +kernel)
  have mixed : IsDocument mixedDocument.toList
      (.object [(some "note", .array [.object [(some "status", .number one)] true] true),
        (some "body", .null), (some "status", .number status)] true) :=
    JsonValue.read_document_eq_iff.mp (by decide +kernel)
  obtain ⟨-, reads, rearranged⟩ := capture_document_format plainDocument _ document
  have read : ofJson plainDocument = .ok { status := 304 } := by
    refine (reads _).mpr ⟨by simp, .absent, .absent, .absent, ?_, .absent, .present .null⟩
    exact ⟨.number status, rfl, status, rfl, ⟨rfl, rfl, rfl, by decide⟩, by decide⟩
  refine ⟨read, (rearranged mixedDocument _ mixed (by simp) ?_ _).mpr read⟩
  exact .swap ..

end SignedResponse.Capture
