import SignedResponse.Proofs.Json.Document
import SignedResponse.Proofs.Json.Record

/-!
Records by their parts.

Each field makes one part of the record, of a value that is of its kind. So what is read of an
object is told part by part: the default where the object has no value, and what the only value
means where it has one. What is read of a sequence is told in the same way, item by item.
-/

namespace SignedResponse

namespace JsonValue

variable {value : JsonValue}

theorem read_whole_of_is_document {α : Type} (read : JsonValue → Except JsonFault α) {text : String}
    (document : IsDocument text.toList value) : readWhole read text = read value := by
  rw [readWhole, read_document_of_is_document document]
  dsimp only
  cases read value <;> rfl

def IsText (value : JsonValue) (text : String) : Prop := value = .string (some text)

inductive IsOptionalText : JsonValue → Option String → Prop where
  | null : IsOptionalText .null none
  | text (text : String) : IsOptionalText (.string (some text)) (some text)

theorem read_text_eq_ok_iff {text : String} : value.readText = .ok text ↔ value.IsText text := by
  constructor
  · intro read
    unfold readText at read
    split at read
    · cases read
      rfl
    · cases read
  · rintro rfl
    rfl

theorem read_optional_text_eq_ok_iff {text : Option String} :
    value.readOptionalText = .ok text ↔ value.IsOptionalText text := by
  constructor
  · intro read
    unfold readOptionalText at read
    split at read
    · cases read
      exact .null
    · cases known : value.readText with
      | error error =>
          rw [known] at read
          cases read
      | ok found =>
          rw [known] at read
          cases read
          rw [read_text_eq_ok_iff.mp known]
          exact .text found
  · rintro (_ | _) <;> rfl

end JsonValue

/-- What the values of a part make of it: the default when there are none, and what the value means
when there is one. -/
inductive JsonValue.Give {β : Type} (IsPart : JsonValue → β → Prop) (default : β) :
    List JsonValue → β → Prop where
  | absent : Give IsPart default [] default
  | present {value : JsonValue} {part : β} (means : IsPart value part) :
      Give IsPart default [value] part

namespace JsonValue.Give

variable {β : Type} {IsPart : JsonValue → β → Prop} {default part other : β}
  {values others : List JsonValue}

theorem length_le (give : Give IsPart default values part) : values.length ≤ 1 := by
  cases give with
  | absent => exact Nat.zero_le 1
  | present means => exact Nat.le_refl 1

theorem exists_part (give : Give IsPart default values part) :
    ∀ value ∈ values, ∃ part, IsPart value part := by
  cases give with
  | absent => exact nofun
  | present means => exact List.forall_mem_singleton.mpr ⟨part, means⟩

/-- Where there is a value, it is the only one and the part is what it means. -/
theorem ne_nil_iff (give : Give IsPart default values part) :
    values ≠ [] ↔ ∃ value, values = [value] ∧ IsPart value part := by
  cases give with
  | absent => exact iff_of_false (fun some => some rfl) (by rintro ⟨_, ⟨⟩, _⟩)
  | present means => exact iff_of_true nofun ⟨_, rfl, means⟩

theorem exists_of_length_le (default : β) (once : values.length ≤ 1)
    (taken : ∀ value ∈ values, ∃ part, IsPart value part) :
    ∃ part, Give IsPart default values part := by
  match values with
  | [] => exact ⟨default, .absent⟩
  | [value] =>
      obtain ⟨part, means⟩ := taken value List.mem_cons_self
      exact ⟨part, .present means⟩
  | _ :: _ :: _ => simp at once

theorem eq_of_give
    (unique : ∀ value left right, IsPart value left → IsPart value right → left = right)
    (give : Give IsPart default values part) (again : Give IsPart default values other) :
    part = other := by
  cases give with
  | absent =>
      cases again
      rfl
  | present means =>
      cases again with
      | present meansAgain => exact unique _ _ _ means meansAgain

theorem eq_iff_of_ne
    (unique : ∀ value left right, IsPart value left → IsPart value right → left = right)
    (give : Give IsPart default values part) (other_ne : other ≠ default) :
    part = other ↔ ∃ value ∈ values, IsPart value other := by
  cases give with
  | absent => exact iff_of_false other_ne.symm (by rintro ⟨_, ⟨⟩, _⟩)
  | @present value part means =>
      constructor
      · rintro rfl
        exact ⟨value, List.mem_cons_self, means⟩
      · rintro ⟨found, member, isOther⟩
        rw [List.mem_singleton.mp member] at isOther
        exact unique value part other means isOther

end JsonValue.Give

/-- A part of a record: its field, how it is seen and put in place, and what is read of a value. -/
structure JsonPart (α : Type) where
  Kind : Type
  field : JsonField α
  view : α → Kind
  put : Kind → α → α
  read : JsonValue → Except JsonFault Kind
  IsPart : JsonValue → Kind → Prop
  sets : ∀ value record,
    field.set value record = (read value).bind fun part => .ok (put part record)
  view_put : ∀ part record, view (put part record) = part
  exact : ∀ value part, read value = .ok part ↔ IsPart value part

namespace JsonPart

variable {α : Type}

def text (field : JsonField α) (view : α → String) (put : String → α → α)
    (sets : ∀ value record, field.set value record =
      value.readText.bind fun part => .ok (put part record))
    (view_put : ∀ part record, view (put part record) = part) : JsonPart α :=
  ⟨String, field, view, put, JsonValue.readText, JsonValue.IsText, sets, view_put,
    fun _ _ => JsonValue.read_text_eq_ok_iff⟩

def optionalText (field : JsonField α) (view : α → Option String)
    (put : Option String → α → α)
    (sets : ∀ value record, field.set value record =
      value.readOptionalText.bind fun part => .ok (put part record))
    (view_put : ∀ part record, view (put part record) = part) : JsonPart α :=
  ⟨Option String, field, view, put, JsonValue.readOptionalText, JsonValue.IsOptionalText, sets,
    view_put, fun _ _ => JsonValue.read_optional_text_eq_ok_iff⟩

variable {part : JsonPart α} {value : JsonValue}

theorem unique (value : JsonValue) (left right : part.Kind) (isLeft : part.IsPart value left)
    (isRight : part.IsPart value right) : left = right := by
  rw [← part.exact] at isLeft isRight
  exact Except.ok.inj (isLeft.symm.trans isRight)

theorem is_part_of_set {record next : α} (set : part.field.set value record = .ok next) :
    part.IsPart value (part.view next) := by
  rw [part.sets] at set
  obtain ⟨meant, read, same⟩ := Except.bind_eq_ok_iff.mp set
  cases same
  rw [part.view_put]
  exact (part.exact value meant).mp read

theorem takes_of_is_part {meant : part.Kind} (isPart : part.IsPart value meant) :
    JsonShape.Takes part.field value := by
  intro record
  rw [part.sets, (part.exact value meant).mpr isPart]
  exact ⟨_, rfl⟩

/-- The record has the part that the values make. -/
def Gives (part : JsonPart α) (shape : JsonShape α) (values : List JsonValue) (record : α) : Prop :=
  JsonValue.Give part.IsPart (part.view shape.defaults) values (part.view record)

end JsonPart

namespace JsonShape

variable {α : Type} {shape : JsonShape α} {parts : List (JsonPart α)} {part : JsonPart α}

/-- The parts of the record are those of its fields. Each is put in place without the others, and
there is nothing else to it. -/
structure IsMadeOf (shape : JsonShape α) (parts : List (JsonPart α)) : Prop where
  fields : shape.fields = parts.map JsonPart.field
  separate : (shape.fields.map JsonField.name).Nodup
  apart : ∀ part ∈ parts, ∀ other ∈ parts, part.field.name ≠ other.field.name →
    ∀ meant record, other.view (part.put meant record) = other.view record
  ext : ∀ left right : α, (∀ part ∈ parts, part.view left = part.view right) → left = right

section Parts

theorem exists_part (made : shape.IsMadeOf parts) {field : JsonField α}
    (known : field ∈ shape.fields) : ∃ part ∈ parts, part.field = field := by
  rw [made.fields] at known
  exact List.mem_map.mp known

theorem field_mem (made : shape.IsMadeOf parts) (member : part ∈ parts) :
    part.field ∈ shape.fields := by
  rw [made.fields]
  exact List.mem_map_of_mem member

theorem is_steady_of_is_made_of (made : shape.IsMadeOf parts) : shape.IsSteady := by
  refine ⟨made.separate, fun field known value record next set => ?_⟩
  obtain ⟨part, -, rfl⟩ := exists_part made known
  exact JsonPart.takes_of_is_part (JsonPart.is_part_of_set set)

theorem shows_of_is_made_of (made : shape.IsMadeOf parts) (member : part ∈ parts) :
    shape.Shows part.field.name part.view := by
  intro field known named value record next set
  obtain ⟨other, otherMember, rfl⟩ := exists_part made known
  rw [other.sets] at set
  obtain ⟨meant, -, same⟩ := Except.bind_eq_ok_iff.mp set
  cases same
  exact made.apart other otherMember part member named meant record

end Parts

section Objects

variable {members : List (Option String × JsonValue)} {record : α}

theorem gives_of_read (made : shape.IsMadeOf parts) (member : part ∈ parts)
    (read : shape.read (.object members true) = .ok record) :
    part.Gives shape (valuesOf members part.field.name) record := by
  have steady := is_steady_of_is_made_of made
  have known := field_mem made member
  have isShown := shows_of_is_made_of made member
  have accepts := (exists_read_iff steady).mp ⟨record, read⟩
  have once := accepts.once part.field known
  rw [JsonPart.Gives]
  cases row : valuesOf members part.field.name with
  | nil =>
      rw [view_of_absent isShown row read]
      exact .absent
  | cons value rest =>
      rw [row, List.length_cons] at once
      obtain rfl : rest = [] := List.eq_nil_of_length_eq_zero (by omega)
      have found : value ∈ valuesOf members part.field.name := row ▸ List.mem_cons_self
      obtain ⟨former, next, set, same⟩ := view_of_value steady known isShown found read
      rw [same]
      exact .present (JsonPart.is_part_of_set set)

/-- A record is read from an object when all of its names are texts and each of its parts is what
the object has for it. -/
theorem read_object_eq_ok_iff (made : shape.IsMadeOf parts) :
    shape.read (.object members true) = .ok record ↔
      (∀ member ∈ members, ∃ name, member.1 = some name) ∧
        ∀ part ∈ parts, part.Gives shape (valuesOf members part.field.name) record ∧
          (part.field.required = true → valuesOf members part.field.name ≠ []) := by
  have steady := is_steady_of_is_made_of made
  constructor
  · intro read
    have accepts := (exists_read_iff steady).mp ⟨record, read⟩
    refine ⟨accepts.named, fun part member => ⟨gives_of_read made member read, ?_⟩⟩
    exact accepts.complete part.field (field_mem made member)
  · rintro ⟨named, given⟩
    have accepts : shape.Accepts members := by
      refine ⟨named, fun field known => ?_, fun field known value found => ?_,
        fun field known => ?_⟩
      all_goals obtain ⟨part, member, rfl⟩ := exists_part made known
      · exact (given part member).1.length_le
      · obtain ⟨meant, isPart⟩ := (given part member).1.exists_part value found
        exact JsonPart.takes_of_is_part isPart
      · exact (given part member).2
    obtain ⟨result, read⟩ := (exists_read_iff steady).mpr accepts
    have same : result = record := by
      refine made.ext result record fun part member => ?_
      exact (gives_of_read made member read).eq_of_give part.unique (given part member).1
    rw [read, same]

theorem closed_of_read {closed : Bool} (read : shape.read (.object members closed) = .ok record) :
    closed = true := by
  cases closed with
  | true => rfl
  | false =>
      obtain ⟨_, -, read⟩ := Except.bind_eq_ok_iff.mp read
      cases read

end Objects

section Sequences

variable {items : List JsonValue} {closed : Bool} {record : α}

theorem fits_of_read_items {length : Nat} {fields : List (JsonField α)} {former : α}
    (read : shape.readItems closed length former fields items = .ok record) :
    closed = true ∧ items.length ≤ fields.length := by
  induction fields generalizing length former items with
  | nil =>
      cases items with
      | nil =>
          rw [readItems] at read
          split_ifs at read with closes
          exact ⟨closes, Nat.le_refl 0⟩
      | cons item items => cases read
  | cons field fields induction =>
      cases items with
      | nil =>
          rw [readItems] at read
          split_ifs at read with opens
          exact ⟨Bool.of_not_eq_false opens, Nat.zero_le _⟩
      | cons item items =>
          rw [readItems] at read
          obtain ⟨next, -, read⟩ := Except.bind_eq_ok_iff.mp read
          exact (induction read).imp_right Nat.succ_le_succ

theorem values_of_eq_nil {members : List (Option String × JsonValue)} {name : String}
    (others : ∀ member ∈ members, member.1 ≠ some name) : valuesOf members name = [] := by
  rw [valuesOf, List.map_eq_nil_iff, List.filter_eq_nil_iff]
  intro member found named
  exact others member found (of_decide_eq_true named)

theorem values_of_zip {fields : List (JsonField α)}
    (separate : (fields.map JsonField.name).Nodup) (items : List JsonValue) {index : Nat}
    {field : JsonField α} (place : fields[index]? = some field) :
    valuesOf ((fields.zip items).map fun entry => (some entry.1.name, entry.2)) field.name =
      items[index]?.toList := by
  induction fields generalizing items index with
  | nil => cases place
  | cons first rest induction =>
      obtain ⟨apart, separate⟩ := List.nodup_cons.mp separate
      have other : ∀ later ∈ rest, first.name ≠ later.name := fun later member same =>
        apart (same ▸ List.mem_map_of_mem member)
      cases items with
      | nil =>
          rw [List.zip_nil_right]
          rfl
      | cons item items =>
          rw [List.zip_cons_cons, List.map_cons]
          cases index with
          | zero =>
              cases place
              rw [values_of_cons_of_eq, values_of_eq_nil]
              · rfl
              · rintro member found named
                obtain ⟨entry, zipped, rfl⟩ := List.mem_map.mp found
                exact other entry.1 (List.of_mem_zip zipped).1 (Option.some.inj named).symm
          | succ index =>
              have later : field ∈ rest := List.mem_of_getElem? place
              rw [values_of_cons_of_ne (other field later).symm, induction separate items place]
              rfl

/-- A record without required fields is read from a sequence when this is not too long and each
part is what the item at its place makes of it. -/
theorem read_array_eq_ok_iff (made : shape.IsMadeOf parts)
    (optional : ∀ part ∈ parts, part.field.required = false) :
    shape.read (.array items true) = .ok record ↔
      items.length ≤ parts.length ∧
        ∀ entry ∈ parts.zipIdx, entry.1.Gives shape items[entry.2]?.toList record := by
  have steady := is_steady_of_is_made_of made
  have length_eq : shape.fields.length = parts.length := by rw [made.fields, List.length_map]
  have freely : ∀ field ∈ shape.fields, field.required = false := by
    rw [made.fields]
    exact List.forall_mem_map.mpr optional
  have values_eq : ∀ entry ∈ parts.zipIdx,
      valuesOf (shape.positional items) entry.1.field.name = items[entry.2]?.toList := by
    rintro ⟨part, index⟩ member
    refine values_of_zip made.separate items ?_
    rw [made.fields, List.getElem?_map, List.mk_mem_zipIdx_iff_getElem?.mp member, Option.map_some]
  have named : ∀ member ∈ shape.positional items, ∃ name, member.1 = some name :=
    List.forall_mem_map.mpr fun entry _ => ⟨entry.1.name, rfl⟩
  have object_iff : shape.read (.object (shape.positional items) true) = .ok record ↔
      ∀ entry ∈ parts.zipIdx, entry.1.Gives shape items[entry.2]?.toList record := by
    rw [read_object_eq_ok_iff made]
    constructor
    · rintro ⟨-, given⟩ entry member
      rw [← values_eq entry member]
      exact (given entry.1 (List.fst_mem_of_mem_zipIdx member)).1
    · intro given
      refine ⟨named, fun part member => ⟨?_, fun required => ?_⟩⟩
      · obtain ⟨index, place⟩ := List.mem_iff_getElem?.mp member
        have entry := List.mk_mem_zipIdx_iff_getElem?.mpr place
        rw [values_eq (part, index) entry]
        exact given (part, index) entry
      · exact absurd required (by rw [optional part member]; decide)
  rw [← object_iff, ← length_eq]
  constructor
  · intro read
    have fits := (fits_of_read_items read).2
    rw [read_array_eq steady freely fits] at read
    exact ⟨fits, read⟩
  · rintro ⟨fits, read⟩
    rw [read_array_eq steady freely fits]
    exact read

theorem read_eq_ok_iff (made : shape.IsMadeOf parts)
    (optional : ∀ part ∈ parts, part.field.required = false) {value : JsonValue} :
    shape.read value = .ok record ↔
      (∃ members, value = .object members true ∧
        (∀ member ∈ members, ∃ name, member.1 = some name) ∧
        ∀ part ∈ parts, part.Gives shape (valuesOf members part.field.name) record) ∨
      ∃ items, value = .array items true ∧ items.length ≤ parts.length ∧
        ∀ entry ∈ parts.zipIdx, entry.1.Gives shape items[entry.2]?.toList record := by
  constructor
  · intro read
    cases value with
    | object members closed =>
        obtain rfl := closed_of_read read
        obtain ⟨named, given⟩ := (read_object_eq_ok_iff made).mp read
        exact .inl ⟨members, rfl, named, fun part member => (given part member).1⟩
    | array items closed =>
        obtain rfl := (fits_of_read_items read).1
        exact .inr ⟨items, rfl, (read_array_eq_ok_iff made optional).mp read⟩
    | _ => cases read
  · rintro (⟨members, rfl, named, given⟩ | ⟨items, rfl, given⟩)
    · refine (read_object_eq_ok_iff made).mpr ⟨named, fun part member => ⟨given part member, ?_⟩⟩
      intro required
      exact absurd required (by rw [optional part member]; decide)
    · exact (read_array_eq_ok_iff made optional).mpr given

end Sequences

end JsonShape

end SignedResponse
