import Mathlib.Tactic.Common
import SignedResponse.Json.Shape

/-!
What a record is made of when it is read member by member or item by item.

A record only changes where a field is set. So what every field keeps is kept throughout, and two
values that every field takes alike can stand for each other wherever they are in a document.
-/

namespace SignedResponse

theorem Except.bind_eq_ok_iff {ε α β : Type} {first : Except ε α} {next : α → Except ε β}
    {result : β} :
    first.bind next = .ok result ↔ ∃ value, first = .ok value ∧ next value = .ok result := by
  cases first with
  | error error => exact iff_of_false nofun (by rintro ⟨_, ⟨⟩, _⟩)
  | ok value =>
      constructor
      · intro read
        exact ⟨value, rfl, read⟩
      · rintro ⟨_, ⟨⟩, read⟩
        exact read

/-- A result can be compared also where no faults can. -/
theorem Except.eq_ok_of_to_option {ε α : Type} {result : Except ε α} {value : α}
    (found : result.toOption = some value) : result = .ok value := by
  cases result with
  | error error => cases found
  | ok other => exact congrArg _ (Option.some.inj found)

namespace JsonShape

variable {α : Type} (shape : JsonShape α)

theorem read_members_cons (seen : List String) (record : α) (key : String) (value : JsonValue)
    (rest : List (Option String × JsonValue)) :
    shape.readMembers seen record ((some key, value) :: rest) =
      match shape.fields.find? fun field => field.name = key with
      | none => shape.readMembers seen record rest
      | some field =>
          if key ∈ seen then .error (.duplicateField key)
          else (field.set value record).bind fun next =>
            shape.readMembers (key :: seen) next rest := by
  rw [readMembers]
  cases shape.fields.find? fun field => field.name = key with
  | none => rfl
  | some field =>
      dsimp only
      split_ifs <;> rfl

theorem read_members_append (seen : List String) (record : α)
    (before after : List (Option String × JsonValue)) :
    shape.readMembers seen record (before ++ after) =
      (shape.readMembers seen record before).bind fun read =>
        shape.readMembers read.1 read.2 after := by
  induction before generalizing seen record with
  | nil => rfl
  | cons member rest induction =>
      obtain ⟨key, value⟩ := member
      cases key with
      | none => rfl
      | some key =>
          rw [List.cons_append, read_members_cons, read_members_cons]
          cases shape.fields.find? fun field => field.name = key with
          | none => exact induction seen record
          | some field =>
              dsimp only
              split_ifs
              · rfl
              · cases field.set value record with
                | error error => rfl
                | ok next => exact induction (key :: seen) next

theorem read_members_of_read {shape : JsonShape α} {members : List (Option String × JsonValue)}
    {closed : Bool} {result : α} (read : shape.read (.object members closed) = .ok result) :
    ∃ seen, shape.readMembers [] shape.defaults members = .ok (seen, result) := by
  obtain ⟨⟨seen, record⟩, known, read⟩ := Except.bind_eq_ok_iff.mp read
  dsimp only at read
  split_ifs at read
  · cases read
  · cases missing : shape.fields.find? fun field =>
      field.required && !seen.contains field.name with
    | none =>
        rw [missing] at read
        cases read
        exact ⟨seen, known⟩
    | some field =>
        rw [missing] at read
        cases read

section Alike

variable {shape} {left right : JsonValue}

/-- Every field takes the two values alike. -/
def Alike (shape : JsonShape α) (left right : JsonValue) : Prop :=
  ∀ field ∈ shape.fields, ∀ record, field.set left record = field.set right record

theorem read_members_alike (alike : shape.Alike left right) (seen : List String) (record : α)
    (key : Option String) (before after : List (Option String × JsonValue)) :
    shape.readMembers seen record (before ++ (key, left) :: after) =
      shape.readMembers seen record (before ++ (key, right) :: after) := by
  -- What comes before the value makes one record of the defaults, and the value is set in it alike.
  rw [read_members_append, read_members_append]
  congr 1
  funext read
  cases key with
  | none => rfl
  | some key =>
      rw [read_members_cons, read_members_cons]
      cases found : shape.fields.find? fun field => field.name = key with
      | none => rfl
      | some field =>
          dsimp only
          rw [alike field (List.mem_of_find?_eq_some found)]

theorem read_items_alike (alike : shape.Alike left right) (closed : Bool) (length : Nat)
    (record : α) (fields : List (JsonField α)) (known : ∀ field ∈ fields, field ∈ shape.fields)
    (before after : List JsonValue) :
    shape.readItems closed length record fields (before ++ left :: after) =
      shape.readItems closed length record fields (before ++ right :: after) := by
  induction before generalizing length record fields with
  | nil =>
      cases fields with
      | nil => rfl
      | cons field rest =>
          rw [List.nil_append, List.nil_append, readItems, readItems,
            alike field (known field List.mem_cons_self)]
  | cons item items induction =>
      cases fields with
      | nil => rfl
      | cons field rest =>
          rw [List.cons_append, List.cons_append, readItems, readItems]
          cases field.set item record with
          | error error => rfl
          | ok next =>
              exact induction (length + 1) next rest fun other member =>
                known other (List.mem_cons_of_mem _ member)

theorem read_object_alike (alike : shape.Alike left right) (key : Option String)
    (before after : List (Option String × JsonValue)) (closed : Bool) :
    shape.read (.object (before ++ (key, left) :: after) closed) =
      shape.read (.object (before ++ (key, right) :: after) closed) := by
  rw [read, read_members_alike alike, read]

theorem read_array_alike (alike : shape.Alike left right) (before after : List JsonValue)
    (closed : Bool) :
    shape.read (.array (before ++ left :: after) closed) =
      shape.read (.array (before ++ right :: after) closed) :=
  read_items_alike alike closed 0 shape.defaults shape.fields (fun _ member => member) before after

end Alike

section Keeps

variable {shape} {holds : α → Prop}

def Keeps (shape : JsonShape α) (holds : α → Prop) : Prop :=
  ∀ field ∈ shape.fields, ∀ value record next, holds record → field.set value record = .ok next →
    holds next

theorem holds_of_read_members (keeps : shape.Keeps holds) {seen : List String} {record : α}
    {members : List (Option String × JsonValue)} {result : List String × α}
    (initially : holds record)
    (read : shape.readMembers seen record members = .ok result) : holds result.2 := by
  induction members generalizing seen record with
  | nil =>
      cases read
      exact initially
  | cons member rest induction =>
      obtain ⟨key, value⟩ := member
      cases key with
      | none => cases read
      | some key =>
          rw [read_members_cons] at read
          cases found : shape.fields.find? fun field => field.name = key with
          | none =>
              rw [found] at read
              exact induction initially read
          | some field =>
              rw [found] at read
              dsimp only at read
              split_ifs at read
              obtain ⟨next, set, read⟩ := Except.bind_eq_ok_iff.mp read
              exact induction
                (keeps field (List.mem_of_find?_eq_some found) value record next initially set) read

theorem holds_of_read_items (keeps : shape.Keeps holds) {closed : Bool} {length : Nat} {record : α}
    {fields : List (JsonField α)} (known : ∀ field ∈ fields, field ∈ shape.fields)
    {items : List JsonValue} {result : α} (initially : holds record)
    (read : shape.readItems closed length record fields items = .ok result) : holds result := by
  induction fields generalizing length record items with
  | nil =>
      cases items with
      | nil =>
          rw [readItems] at read
          split_ifs at read
          cases read
          exact initially
      | cons item rest => cases read
  | cons field rest induction =>
      have others : ∀ other ∈ rest, other ∈ shape.fields := fun other member =>
        known other (List.mem_cons_of_mem _ member)
      cases items with
      | nil =>
          rw [readItems] at read
          split_ifs at read
          exact induction others initially read
      | cons item items =>
          rw [readItems] at read
          obtain ⟨next, set, read⟩ := Except.bind_eq_ok_iff.mp read
          exact induction others (keeps field (known field List.mem_cons_self) item record next
            initially set) read

/-- What holds of the defaults and is kept by every field holds of every record that is read. -/
theorem holds_of_read (keeps : shape.Keeps holds) (initially : holds shape.defaults)
    {document : JsonValue} {result : α} (read : shape.read document = .ok result) :
    holds result := by
  cases document with
  | object members closed =>
      obtain ⟨seen, known⟩ := read_members_of_read read
      exact holds_of_read_members keeps initially known
  | array items closed =>
      exact holds_of_read_items keeps (fun _ member => member) initially read
  | _ => cases read

end Keeps

section Shows

variable {shape} {β : Type} {view : α → β} {name : String}

/-- What is seen of a record changes with the field of this name only. -/
def Shows (shape : JsonShape α) (name : String) (view : α → β) : Prop :=
  ∀ field ∈ shape.fields, field.name ≠ name → ∀ value record next,
    field.set value record = .ok next → view next = view record

theorem view_of_read_members (shows : shape.Shows name view) {seen : List String} {record : α}
    {members : List (Option String × JsonValue)} {result : List String × α}
    (late : ∀ value, (some name, value) ∈ members → name ∈ seen)
    (read : shape.readMembers seen record members = .ok result) : view result.2 = view record := by
  induction members generalizing seen record with
  | nil =>
      cases read
      rfl
  | cons member rest induction =>
      obtain ⟨key, value⟩ := member
      have others : ∀ value, (some name, value) ∈ rest → name ∈ seen := fun value found =>
        late value (List.mem_cons_of_mem _ found)
      cases key with
      | none => cases read
      | some key =>
          rw [read_members_cons] at read
          cases found : shape.fields.find? fun field => field.name = key with
          | none =>
              rw [found] at read
              exact induction others read
          | some field =>
              rw [found] at read
              dsimp only at read
              split_ifs at read with again
              obtain ⟨next, set, read⟩ := Except.bind_eq_ok_iff.mp read
              have named : field.name = key := by simpa using List.find?_some found
              have other : field.name ≠ name := by
                rintro rfl
                exact again (named ▸ late value (named ▸ List.mem_cons_self))
              rw [induction (fun value found => List.mem_cons_of_mem _ (others value found)) read]
              exact shows field (List.mem_of_find?_eq_some found) other value record next set

theorem view_of_member (shows : shape.Shows name view) {field : JsonField α}
    (found : (shape.fields.find? fun field => field.name = name) = some field)
    {before after : List (Option String × JsonValue)} {value : JsonValue} {closed : Bool}
    {result : α}
    (read : shape.read (.object (before ++ (some name, value) :: after) closed) = .ok result) :
    ∃ former next, field.set value former = .ok next ∧ view result = view next := by
  obtain ⟨seen, read⟩ := read_members_of_read read
  rw [read_members_append] at read
  obtain ⟨⟨seenBefore, former⟩, -, read⟩ := Except.bind_eq_ok_iff.mp read
  rw [read_members_cons, found] at read
  dsimp only at read
  split_ifs at read
  obtain ⟨next, set, read⟩ := Except.bind_eq_ok_iff.mp read
  exact ⟨former, next, set, view_of_read_members shows (fun _ _ => List.mem_cons_self) read⟩

theorem view_of_read_items (shows : shape.Shows name view) {closed : Bool} {length : Nat}
    {record : α} {fields : List (JsonField α)}
    (others : ∀ field ∈ fields, field ∈ shape.fields ∧ field.name ≠ name)
    {items : List JsonValue} {result : α}
    (read : shape.readItems closed length record fields items = .ok result) :
    view result = view record := by
  induction fields generalizing length record items with
  | nil =>
      cases items with
      | nil =>
          rw [readItems] at read
          split_ifs at read
          cases read
          rfl
      | cons item rest => cases read
  | cons field rest induction =>
      obtain ⟨⟨known, other⟩, others⟩ := List.forall_mem_cons.mp others
      cases items with
      | nil =>
          rw [readItems] at read
          split_ifs at read
          exact induction others read
      | cons item items =>
          rw [readItems] at read
          obtain ⟨next, set, read⟩ := Except.bind_eq_ok_iff.mp read
          rw [induction others read]
          exact shows field known other item record next set

theorem view_of_item (shows : shape.Shows name view) {closed : Bool} {length : Nat} {record : α}
    {formers later : List (JsonField α)} {field : JsonField α} {before after : List JsonValue}
    (aligned : before.length = formers.length)
    (others : ∀ other ∈ later, other ∈ shape.fields ∧ other.name ≠ name) {value : JsonValue}
    {result : α}
    (read : shape.readItems closed length record (formers ++ field :: later)
      (before ++ value :: after) = .ok result) :
    ∃ former next, field.set value former = .ok next ∧ view result = view next := by
  induction formers generalizing length record before with
  | nil =>
      rw [List.length_eq_zero_iff.mp aligned, List.nil_append, List.nil_append, readItems] at read
      obtain ⟨next, set, read⟩ := Except.bind_eq_ok_iff.mp read
      exact ⟨record, next, set, view_of_read_items shows others read⟩
  | cons first rest induction =>
      cases before with
      | nil => cases aligned
      | cons item items =>
          rw [List.cons_append, List.cons_append, readItems] at read
          obtain ⟨next, -, read⟩ := Except.bind_eq_ok_iff.mp read
          exact induction (Nat.succ.inj aligned) read

end Shows

end JsonShape

end SignedResponse
