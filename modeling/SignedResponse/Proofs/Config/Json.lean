import Mathlib.Tactic.Common
import SignedResponse.Config.Json
import SignedResponse.Proofs.Json.Part

/-!
Settings as JSON.

What is written is read back. A document may also give the settings in part, as an object in any
order and among other members, or as a sequence of the first of them, and the names of the headers
in the same two ways inside it; what is left out is the default.
-/

namespace SignedResponse

open JsonShape (valuesOf)
open JsonValue (Give IsDocument IsText)

namespace HeaderNames

variable {names : HeaderNames} {value : JsonValue}

/-- The names have what these values give. -/
structure HasParts (signature requestDate etag nonce : List JsonValue) (names : HeaderNames) :
    Prop where
  signature : Give IsText "X-Signature" signature names.signature
  requestDate : Give IsText "X-RevenueCat-Request-Time" requestDate names.requestDate
  etag : Give IsText "X-RevenueCat-ETag" etag names.etag
  nonce : Give IsText "X-Nonce" nonce names.nonce

/-- The names that a value gives, under the names of the fields or at their places. -/
inductive Given : JsonValue → HeaderNames → Prop where
  | object {members : List (Option String × JsonValue)} {names : HeaderNames}
      (named : ∀ member ∈ members, ∃ name, member.1 = some name)
      (parts : HasParts (valuesOf members "signature") (valuesOf members "request_date")
        (valuesOf members "etag") (valuesOf members "nonce") names) :
      Given (.object members true) names
  | array {items : List JsonValue} {names : HeaderNames} (fits : items.length ≤ 4)
      (parts : HasParts items[0]?.toList items[1]?.toList items[2]?.toList items[3]?.toList names) :
      Given (.array items true) names

def parts : List (JsonPart HeaderNames) :=
  [.text shape.fields[0] signature (fun signature names => { names with signature })
      (fun _ _ => rfl) fun _ _ => rfl,
    .text shape.fields[1] requestDate (fun requestDate names => { names with requestDate })
      (fun _ _ => rfl) fun _ _ => rfl,
    .text shape.fields[2] etag (fun etag names => { names with etag }) (fun _ _ => rfl)
      fun _ _ => rfl,
    .text shape.fields[3] nonce (fun nonce names => { names with nonce }) (fun _ _ => rfl)
      fun _ _ => rfl]

theorem is_made_of_parts : shape.IsMadeOf parts := by
  refine ⟨rfl, by decide, ?_, fun left right same => ?_⟩
  · intro part member other otherMember different meant record
    simp only [parts, List.mem_cons, List.not_mem_nil, or_false] at member otherMember
    rcases member with rfl | rfl | rfl | rfl
    all_goals
      rcases otherMember with rfl | rfl | rfl | rfl
      all_goals
        first
          | rfl
          | exact absurd rfl different
  · simp only [parts, List.forall_mem_cons] at same
    obtain ⟨signature, requestDate, etag, nonce, -⟩ := same
    cases left
    cases right
    rw [HeaderNames.mk.injEq]
    exact ⟨signature, requestDate, etag, nonce⟩

theorem read_eq_ok_iff : shape.read value = .ok names ↔ Given value names := by
  have optional : ∀ part ∈ parts, part.field.required = false := by
    simp only [parts, List.forall_mem_cons]
    exact ⟨rfl, rfl, rfl, rfl, nofun⟩
  rw [JsonShape.read_eq_ok_iff is_made_of_parts optional]
  simp only [parts, List.zipIdx_cons, List.zipIdx_nil, List.forall_mem_cons]
  constructor
  · rintro (⟨members, rfl, named, signature, requestDate, etag, nonce, -⟩ |
      ⟨items, rfl, fits, signature, requestDate, etag, nonce, -⟩)
    · exact .object named ⟨signature, requestDate, etag, nonce⟩
    · exact .array fits ⟨signature, requestDate, etag, nonce⟩
  · rintro (⟨named, parts⟩ | ⟨fits, parts⟩)
    · exact .inl ⟨_, rfl, named, parts.signature, parts.requestDate, parts.etag, parts.nonce, nofun⟩
    · exact .inr ⟨_, rfl, fits, parts.signature, parts.requestDate, parts.etag, parts.nonce, nofun⟩

theorem given_array_iff {items : List JsonValue} (fits : items.length ≤ 4) :
    Given (.array items true) names ↔ Given (.object (shape.positional items) true) names := by
  rw [← read_eq_ok_iff, ← read_eq_ok_iff,
    JsonShape.read_array_eq (JsonShape.is_steady_of_is_made_of is_made_of_parts) ?_ fits]
  simp only [shape, List.forall_mem_cons]
  exact ⟨trivial, trivial, trivial, trivial, nofun⟩

end HeaderNames

namespace Config

variable {config : Config} {value : JsonValue}

/-- The name of a mode, or an object that has this name alone, for null. -/
inductive IsMode : JsonValue → Mode → Prop where
  | name (mode : Mode) : IsMode (.string (some mode.text)) mode
  | member (mode : Mode) : IsMode (.object [(some mode.text, .null)] true) mode

def IsSize (value : JsonValue) (size : UInt64) : Prop :=
  ∃ literal, value = .number literal ∧ literal.IsNatural size.toNat

structure HasParts (mode nonceSize headers : List JsonValue) (config : Config) : Prop where
  mode : Give IsMode .informational mode config.mode
  nonceSize : Give IsSize 12 nonceSize config.nonceSize
  headers : Give HeaderNames.Given {} headers config.headers

inductive Given : JsonValue → Config → Prop where
  | object {members : List (Option String × JsonValue)} {config : Config}
      (named : ∀ member ∈ members, ∃ name, member.1 = some name)
      (parts : HasParts (valuesOf members "mode") (valuesOf members "nonce_size")
        (valuesOf members "headers") config) :
      Given (.object members true) config
  | array {items : List JsonValue} {config : Config} (fits : items.length ≤ 3)
      (parts : HasParts items[0]?.toList items[1]?.toList items[2]?.toList config) :
      Given (.array items true) config

section Parts

def modes : List (String × Mode) := Mode.all.map fun mode => (mode.text, mode)

theorem choose_modes_eq_ok_iff {name : String} {mode : Mode} :
    JsonValue.choose modes name = .ok mode ↔ name = mode.text := by
  constructor
  · intro chosen
    unfold JsonValue.choose at chosen
    split at chosen
    · rename_i choice found
      cases chosen
      have named : choice.1 = name := by simpa using List.find?_some found
      obtain ⟨mode, -, rfl⟩ := List.mem_map.mp (List.mem_of_find?_eq_some found)
      exact named.symm
    · cases chosen
  · rintro rfl
    cases mode <;> rfl

theorem read_mode_eq_ok_iff {mode : Mode} :
    value.readChoice modes = .ok mode ↔ IsMode value mode := by
  constructor
  · intro read
    unfold JsonValue.readChoice at read
    split at read
    · rw [choose_modes_eq_ok_iff.mp read]
      exact .name mode
    · rename_i name value members closed
      obtain ⟨choice, chosen, read⟩ := Except.bind_eq_ok_iff.mp read
      cases value with
      | null =>
          simp only at read
          split_ifs at read with alone
          cases read
          rw [Bool.and_eq_true, List.isEmpty_iff] at alone
          rw [alone.1, alone.2, choose_modes_eq_ok_iff.mp chosen]
          exact .member mode
      | _ => cases read
    · cases read
  · rintro (_ | _)
    · exact choose_modes_eq_ok_iff.mpr rfl
    · exact Except.bind_eq_ok_iff.mpr ⟨mode, choose_modes_eq_ok_iff.mpr rfl, rfl⟩

theorem read_size_eq_ok_iff {size : UInt64} :
    (value.readNatural UInt64.size "usize").map UInt64.ofNat = .ok size ↔ IsSize value size := by
  constructor
  · intro read
    cases known : value.readNatural UInt64.size "usize" with
    | error fault =>
        rw [known] at read
        cases read
    | ok number =>
        rw [known] at read
        cases read
        obtain ⟨literal, rfl, isNatural, below⟩ :=
          (JsonValue.read_natural_eq_ok_iff (Nat.le_refl _)).mp known
        refine ⟨literal, rfl, ?_⟩
        rwa [UInt64.toNat_ofNat_of_lt' below]
  · rintro ⟨literal, rfl, isNatural⟩
    rw [(JsonValue.read_natural_eq_ok_iff (Nat.le_refl _)).mpr
      ⟨literal, rfl, isNatural, size.toNat_lt⟩]
    exact congrArg Except.ok (UInt64.ofNat_toNat)

theorem set_nonce_size (value : JsonValue) (record : Config) :
    shape.fields[1].set value record =
      ((value.readNatural UInt64.size "usize").map UInt64.ofNat).bind fun nonceSize =>
        .ok { record with nonceSize } := by
  change (value.readNatural UInt64.size "usize").bind
    (fun size => .ok { record with nonceSize := .ofNat size }) = _
  cases value.readNatural UInt64.size "usize" <;> rfl

def parts : List (JsonPart Config) :=
  [⟨Mode, shape.fields[0], mode, fun mode config => { config with mode },
      JsonValue.readChoice modes, IsMode, fun _ _ => rfl, fun _ _ => rfl,
      fun _ _ => read_mode_eq_ok_iff⟩,
    ⟨UInt64, shape.fields[1], nonceSize, fun nonceSize config => { config with nonceSize },
      fun value => (value.readNatural UInt64.size "usize").map UInt64.ofNat, IsSize, set_nonce_size,
      fun _ _ => rfl, fun _ _ => read_size_eq_ok_iff⟩,
    ⟨HeaderNames, shape.fields[2], headers, fun headers config => { config with headers },
      HeaderNames.shape.read, HeaderNames.Given, fun _ _ => rfl, fun _ _ => rfl,
      fun _ _ => HeaderNames.read_eq_ok_iff⟩]

theorem is_made_of_parts : shape.IsMadeOf parts := by
  refine ⟨rfl, by decide, ?_, fun left right same => ?_⟩
  · intro part member other otherMember different meant record
    simp only [parts, List.mem_cons, List.not_mem_nil, or_false] at member otherMember
    rcases member with rfl | rfl | rfl
    all_goals
      rcases otherMember with rfl | rfl | rfl
      all_goals
        first
          | rfl
          | exact absurd rfl different
  · simp only [parts, List.forall_mem_cons] at same
    obtain ⟨mode, nonceSize, headers, -⟩ := same
    cases left
    cases right
    rw [Config.mk.injEq]
    exact ⟨mode, nonceSize, headers⟩

theorem read_eq_ok_iff : shape.read value = .ok config ↔ Given value config := by
  have optional : ∀ part ∈ parts, part.field.required = false := by
    simp only [parts, List.forall_mem_cons]
    exact ⟨rfl, rfl, rfl, nofun⟩
  rw [JsonShape.read_eq_ok_iff is_made_of_parts optional]
  simp only [parts, List.zipIdx_cons, List.zipIdx_nil, List.forall_mem_cons]
  constructor
  · rintro (⟨members, rfl, named, mode, nonceSize, headers, -⟩ |
      ⟨items, rfl, fits, mode, nonceSize, headers, -⟩)
    · exact .object named ⟨mode, nonceSize, headers⟩
    · exact .array fits ⟨mode, nonceSize, headers⟩
  · rintro (⟨named, parts⟩ | ⟨fits, parts⟩)
    · exact .inl ⟨_, rfl, named, parts.mode, parts.nonceSize, parts.headers, nofun⟩
    · exact .inr ⟨_, rfl, fits, parts.mode, parts.nonceSize, parts.headers, nofun⟩

end Parts

section Writing

def tree (config : Config) : JsonValue :=
  let text (value : String) : JsonValue := .string (some value)
  .object
    [(some "mode", text config.mode.text),
      (some "nonce_size", .number (.ofNatural config.nonceSize.toNat)),
      (some "headers", .object
        [(some "signature", text config.headers.signature),
          (some "request_date", text config.headers.requestDate),
          (some "etag", text config.headers.etag), (some "nonce", text config.headers.nonce)] true)]
    true

theorem spells_text (text : String) :
    JsonValue.Spells (JsonText.write text.toList) (.string (some text)) := by
  have spells := JsonValue.spells_write text.toList
  rwa [String.ofList_toList] at spells

theorem is_document_json (config : Config) : IsDocument config.json.toList config.tree := by
  have headers := JsonValue.spells_write_object
    [("signature", JsonText.write config.headers.signature.toList,
        .string (some config.headers.signature)),
      ("request_date", JsonText.write config.headers.requestDate.toList,
        .string (some config.headers.requestDate)),
      ("etag", JsonText.write config.headers.etag.toList, .string (some config.headers.etag)),
      ("nonce", JsonText.write config.headers.nonce.toList, .string (some config.headers.nonce))]
    (by
      simp only [List.forall_mem_cons]
      exact ⟨spells_text _, spells_text _, spells_text _, spells_text _, nofun⟩)
  have settings := JsonValue.spells_write_object
    [("mode", JsonText.write config.mode.text.toList, .string (some config.mode.text)),
      ("nonce_size", Decimal.digits config.nonceSize.toNat,
        .number (.ofNatural config.nonceSize.toNat)),
      ("headers", _, _)]
    (by
      simp only [List.forall_mem_cons]
      exact ⟨spells_text _, .number (JsonLiteral.spells_of_natural _), headers, nofun⟩)
  rw [json, String.toList_ofList]
  exact JsonValue.is_document_of_spells settings

theorem given_tree (config : Config) : Given config.tree config := by
  refine .object (by simp) ⟨.present (.name config.mode), .present ?_, .present ?_⟩
  · exact ⟨_, rfl, JsonLiteral.is_natural_of_natural _⟩
  · exact .object (by simp) ⟨.present rfl, .present rfl, .present rfl, .present rfl⟩

end Writing

theorem of_json_eq_ok_iff {text : String} (document : IsDocument text.toList value) :
    ofJson text = .ok config ↔ Given value config := by
  rw [ofJson, JsonValue.read_whole_of_is_document _ document, read_eq_ok_iff]

/-- What is written of settings is read back. Of a valid document settings are read when they are
what it gives, as an object or as a sequence, with the defaults for what it leaves out. A sequence
is read as the object that has its items under the names of the first fields, and so is a sequence
of header names inside. -/
theorem config_document_format :
    (∀ config : Config, ofJson config.json = .ok config) ∧
    (∀ text value, IsDocument text.toList value →
      ∀ config, ofJson text = .ok config ↔ Given value config) ∧
    (∀ text items other, IsDocument text.toList (.array items true) → items.length ≤ 3 →
      IsDocument other.toList (.object (shape.positional items) true) →
      ofJson text = ofJson other) ∧
    ∀ items : List JsonValue, items.length ≤ 4 → ∀ names,
      HeaderNames.Given (.array items true) names ↔
        HeaderNames.Given (.object (HeaderNames.shape.positional items) true) names := by
  refine ⟨fun config => ?_, fun text value document config => of_json_eq_ok_iff document, ?_,
    fun items fits names => HeaderNames.given_array_iff fits⟩
  · exact (of_json_eq_ok_iff (is_document_json config)).mpr (given_tree config)
  · intro text items other document fits otherDocument
    rw [ofJson, ofJson, JsonValue.read_whole_of_is_document _ document,
      JsonValue.read_whole_of_is_document _ otherDocument]
    refine JsonShape.read_array_eq (JsonShape.is_steady_of_is_made_of is_made_of_parts) ?_ fits
    simp only [shape, List.forall_mem_cons]
    exact ⟨trivial, trivial, trivial, nofun⟩

def partialDocument : String :=
  "\x7b\"mode\":\"enforced\",\"nonce_size\":16,\"headers\":[\"X-\\ud83d\\udd11\"]\x7d"

def sequenceDocument : String := "[\"enforced\", 16, [\"X-\\ud83d\\udd11\"]]"

theorem partial_documents_are_read :
    ∃ config : Config, ofJson partialDocument = .ok config ∧ ofJson sequenceDocument = .ok config ∧
      config = { mode := .enforced, nonceSize := 16, headers := { signature := "X-🔑" } } ∧
      ofJson config.json = .ok config := by
  obtain ⟨back, reads, sequences, places⟩ := config_document_format
  let config : Config :=
    { mode := .enforced, nonceSize := 16, headers := { signature := "X-🔑" } }
  let items : List JsonValue :=
    [.string (some "enforced"), .number { negative := false, integer := ['1', '6'] },
      .array [.string (some "X-🔑")] true]
  have object : IsDocument partialDocument.toList (.object (shape.positional items) true) :=
    JsonValue.read_document_eq_iff.mp (by decide +kernel)
  have sequence : IsDocument sequenceDocument.toList (.array items true) :=
    JsonValue.read_document_eq_iff.mp (by decide +kernel)
  have given : Given (.object (shape.positional items) true) config := by
    refine .object (by simp [JsonShape.positional, shape, items]) ⟨.present (.name .enforced),
      .present ⟨_, rfl, rfl, rfl, rfl, by decide⟩, .present ?_⟩
    refine (places [.string (some "X-🔑")] (by decide) _).mpr (.object ?_ ?_)
    · simp [JsonShape.positional, HeaderNames.shape]
    · exact ⟨.present rfl, .absent, .absent, .absent⟩
  have read := (reads partialDocument _ object config).mpr given
  exact ⟨config, read, (sequences sequenceDocument items partialDocument sequence (by decide)
    object).trans read, rfl, back config⟩

end Config

end SignedResponse
