import Mathlib.Data.List.Nodup
import Mathlib.Tactic.Common
import SignedResponse.Proofs.Json.Shape

/-!
From which objects and sequences a record is read.

What counts of an object are the values under the names of the fields: one at most, and one that the
field takes. Their order makes no difference, nor do members of other names. A sequence is read as
the object that has its items under the names of the first fields.
-/

namespace SignedResponse.JsonShape

def valuesOf (members : List (Option String × JsonValue)) (name : String) : List JsonValue :=
  (members.filter fun member => member.1 = some name).map Prod.snd

variable {α : Type}

/-- The field takes the value, whatever was read before. -/
def Takes (field : JsonField α) (value : JsonValue) : Prop :=
  ∀ record, ∃ next, field.set value record = .ok next

/-- No two fields have one name, and none depends on what was read before. -/
structure IsSteady (shape : JsonShape α) : Prop where
  separate : (shape.fields.map JsonField.name).Nodup
  takes : ∀ field ∈ shape.fields, ∀ value record next, field.set value record = .ok next →
    Takes field value

/-- The members make up a record. -/
structure Accepts (shape : JsonShape α) (members : List (Option String × JsonValue)) : Prop where
  named : ∀ member ∈ members, ∃ name, member.1 = some name
  once : ∀ field ∈ shape.fields, (valuesOf members field.name).length ≤ 1
  taken : ∀ field ∈ shape.fields, ∀ value ∈ valuesOf members field.name, Takes field value
  complete : ∀ field ∈ shape.fields, field.required = true → valuesOf members field.name ≠ []

def positional (shape : JsonShape α) (items : List JsonValue) : List (Option String × JsonValue) :=
  (shape.fields.zip items).map fun entry => (some entry.1.name, entry.2)

section Members

variable {shape : JsonShape α} {members rest : List (Option String × JsonValue)}
  {seen : List String} {record : α} {name key : String} {value : JsonValue} {field : JsonField α}

theorem values_of_cons_of_eq (name : String) (value : JsonValue)
    (rest : List (Option String × JsonValue)) :
    valuesOf ((some name, value) :: rest) name = value :: valuesOf rest name := by
  have found : decide ((some name, value).1 = some name) = true := decide_eq_true rfl
  exact congrArg (List.map Prod.snd) (List.filter_cons_of_pos found)

theorem values_of_cons_of_ne (other : name ≠ key) (value : JsonValue)
    (rest : List (Option String × JsonValue)) :
    valuesOf ((some key, value) :: rest) name = valuesOf rest name := by
  rw [valuesOf, List.filter_cons_of_neg, valuesOf]
  rw [decide_eq_true_eq, Option.some.injEq]
  exact fun same => other same.symm

theorem mem_values_of : value ∈ valuesOf members name ↔ (some name, value) ∈ members := by
  rw [valuesOf, List.mem_map]
  constructor
  · rintro ⟨⟨key, _⟩, found, rfl⟩
    rw [List.mem_filter, decide_eq_true_eq] at found
    exact found.2 ▸ found.1
  · intro member
    exact ⟨(some name, value), List.mem_filter.mpr ⟨member, decide_eq_true rfl⟩, rfl⟩

theorem find_of_mem (steady : shape.IsSteady) (member : field ∈ shape.fields) :
    (shape.fields.find? fun other => other.name = field.name) = some field := by
  cases found : shape.fields.find? fun other => other.name = field.name with
  | none => exact absurd (decide_eq_true rfl) (List.find?_eq_none.mp found field member)
  | some other =>
      have named : other.name = field.name := by simpa using List.find?_some found
      rw [List.inj_on_of_nodup_map steady.separate (List.mem_of_find?_eq_some found) member named]

/-- The members can be read on after fields of these names. -/
structure Continues (shape : JsonShape α) (seen : List String)
    (members : List (Option String × JsonValue)) : Prop where
  named : ∀ member ∈ members, ∃ name, member.1 = some name
  once : ∀ field ∈ shape.fields,
    (valuesOf members field.name).length ≤ if field.name ∈ seen then 0 else 1
  taken : ∀ field ∈ shape.fields, ∀ value ∈ valuesOf members field.name, Takes field value

theorem continues_unknown_iff (unknown : ∀ field ∈ shape.fields, field.name ≠ key) :
    shape.Continues seen ((some key, value) :: rest) ↔ shape.Continues seen rest := by
  have same : ∀ field ∈ shape.fields,
      valuesOf ((some key, value) :: rest) field.name = valuesOf rest field.name :=
    fun field known => values_of_cons_of_ne (unknown field known) value rest
  constructor
  · rintro ⟨named, once, taken⟩
    refine ⟨fun member found => named member (List.mem_cons_of_mem _ found),
      fun field known => ?_, fun field known => ?_⟩
    · rw [← same field known]
      exact once field known
    · rw [← same field known]
      exact taken field known
  · rintro ⟨named, once, taken⟩
    refine ⟨List.forall_mem_cons.mpr ⟨⟨key, rfl⟩, named⟩, fun field known => ?_,
      fun field known => ?_⟩
    · rw [same field known]
      exact once field known
    · rw [same field known]
      exact taken field known

theorem continues_known_iff (steady : shape.IsSteady) (member : field ∈ shape.fields) :
    shape.Continues seen ((some field.name, value) :: rest) ↔
      field.name ∉ seen ∧ Takes field value ∧ shape.Continues (field.name :: seen) rest := by
  have others : ∀ other ∈ shape.fields, other ≠ field →
      other.name ≠ field.name := by
    intro other known different same
    exact different (List.inj_on_of_nodup_map steady.separate known member same)
  constructor
  · rintro ⟨named, once, taken⟩
    have first := once field member
    rw [values_of_cons_of_eq, List.length_cons] at first
    have fresh : field.name ∉ seen := by
      intro again
      rw [if_pos again] at first
      omega
    rw [if_neg fresh] at first
    refine ⟨fresh, taken field member value ?_, ?_, ?_, ?_⟩
    · rw [values_of_cons_of_eq]
      exact List.mem_cons_self
    · exact fun member found => named member (List.mem_cons_of_mem _ found)
    · intro other known
      by_cases equal : other = field
      · subst equal
        rw [if_pos List.mem_cons_self]
        omega
      · have bound := once other known
        rw [values_of_cons_of_ne (others other known equal)] at bound
        simp only [List.mem_cons, others other known equal, false_or]
        exact bound
    · intro other known item found
      refine taken other known item ?_
      rw [mem_values_of] at found ⊢
      exact List.mem_cons_of_mem _ found
  · rintro ⟨fresh, takes, named, once, taken⟩
    refine ⟨List.forall_mem_cons.mpr ⟨⟨field.name, rfl⟩, named⟩, fun other known => ?_,
      fun other known item found => ?_⟩
    · have bound := once other known
      by_cases equal : other = field
      · subst equal
        rw [if_pos List.mem_cons_self] at bound
        rw [values_of_cons_of_eq, List.length_cons, if_neg fresh]
        omega
      · rw [values_of_cons_of_ne (others other known equal)]
        simp only [List.mem_cons, others other known equal, false_or] at bound
        exact bound
    · rw [mem_values_of, List.mem_cons] at found
      rcases found with same | found
      · obtain ⟨named, rfl⟩ := Prod.mk.inj same
        rw [List.inj_on_of_nodup_map steady.separate known member (Option.some.inj named)]
        exact takes
      · exact taken other known item (mem_values_of.mpr found)

theorem exists_read_members_iff (steady : shape.IsSteady) :
    (∃ result, shape.readMembers seen record members = .ok result) ↔
      shape.Continues seen members := by
  induction members generalizing seen record with
  | nil =>
      refine iff_of_true ⟨_, rfl⟩ ⟨nofun, fun field _ => Nat.zero_le _, fun _ _ => nofun⟩
  | cons member rest induction =>
      obtain ⟨_ | key, value⟩ := member
      · refine iff_of_false (by rintro ⟨_, ⟨⟩⟩) fun continues => ?_
        obtain ⟨_, ⟨⟩⟩ := continues.named _ List.mem_cons_self
      · rw [read_members_cons]
        cases found : shape.fields.find? fun field => field.name = key with
        | none =>
            have unknown : ∀ field ∈ shape.fields, field.name ≠ key := by
              intro field known
              simpa using List.find?_eq_none.mp found field known
            rw [continues_unknown_iff unknown]
            exact induction
        | some field =>
            obtain rfl : field.name = key := by simpa using List.find?_some found
            have known := List.mem_of_find?_eq_some found
            rw [continues_known_iff steady known]
            dsimp only
            split_ifs with again
            · exact iff_of_false (by rintro ⟨_, ⟨⟩⟩) fun continues => continues.1 again
            · constructor
              · rintro ⟨result, read⟩
                obtain ⟨next, set, read⟩ := Except.bind_eq_ok_iff.mp read
                exact ⟨again, steady.takes field known value record next set,
                  induction.mp ⟨result, read⟩⟩
              · rintro ⟨-, takes, continues⟩
                obtain ⟨next, set⟩ := takes record
                obtain ⟨result, read⟩ := induction.mpr continues
                exact ⟨result, Except.bind_eq_ok_iff.mpr ⟨next, set, read⟩⟩

theorem mem_seen_iff {result : List String × α}
    (read : shape.readMembers seen record members = .ok result) (member : field ∈ shape.fields) :
    field.name ∈ result.1 ↔ field.name ∈ seen ∨ valuesOf members field.name ≠ [] := by
  induction members generalizing seen record with
  | nil =>
      cases read
      simp [valuesOf]
  | cons first rest induction =>
      obtain ⟨_ | key, value⟩ := first
      · cases read
      · rw [read_members_cons] at read
        cases found : shape.fields.find? fun field => field.name = key with
        | none =>
            have other : field.name ≠ key := by simpa using List.find?_eq_none.mp found field member
            rw [found] at read
            rw [induction read, values_of_cons_of_ne other]
        | some known =>
            obtain rfl : known.name = key := by simpa using List.find?_some found
            rw [found] at read
            dsimp only at read
            split_ifs at read
            obtain ⟨next, -, read⟩ := Except.bind_eq_ok_iff.mp read
            rw [induction read, List.mem_cons]
            by_cases same : field.name = known.name
            · rw [same, values_of_cons_of_eq]
              simp
            · rw [values_of_cons_of_ne same]
              simp [same]

theorem read_object_eq (shape : JsonShape α) (members : List (Option String × JsonValue)) :
    shape.read (.object members true) =
      (shape.readMembers [] shape.defaults members).bind fun read =>
        match shape.fields.find? fun field => field.required && !read.1.contains field.name with
        | some field => .error (.missingField field.name)
        | none => .ok read.2 := rfl

/-- A record is read from an object when its members make one up, and only then. -/
theorem exists_read_iff (steady : shape.IsSteady) :
    (∃ record, shape.read (.object members true) = .ok record) ↔ shape.Accepts members := by
  simp only [read_object_eq, Except.bind_eq_ok_iff]
  constructor
  · rintro ⟨record, result, read, whole⟩
    obtain ⟨named, once, taken⟩ := (exists_read_members_iff steady).mp ⟨result, read⟩
    refine ⟨named, once, taken, fun field known required absent => ?_⟩
    have unseen : field.name ∉ result.1 := by
      rw [mem_seen_iff read known]
      simp [absent]
    split at whole
    · cases whole
    · rename_i complete
      have present := List.find?_eq_none.mp complete field known
      simp [required, unseen] at present
  · rintro ⟨named, once, taken, complete⟩
    have continues : shape.Continues [] members := ⟨named, once, taken⟩
    obtain ⟨result, read⟩ : ∃ result, shape.readMembers [] shape.defaults members = .ok result :=
      (exists_read_members_iff steady).mpr continues
    have present : (shape.fields.find? fun field =>
        field.required && !result.1.contains field.name) = none := by
      rw [List.find?_eq_none]
      intro field known missing
      simp only [Bool.and_eq_true, Bool.not_eq_true', List.contains_eq_mem,
        decide_eq_false_iff_not] at missing
      exact missing.2 ((mem_seen_iff read known).mpr (Or.inr (complete field known missing.1)))
    exact ⟨result.2, result, read, by rw [present]⟩

end Members

section Views

variable {shape : JsonShape α} {β : Type} {view : α → β} {field : JsonField α}
  {members : List (Option String × JsonValue)} {result : α}

/-- What is seen of a record is what the value of its field made of it. -/
theorem view_of_value (steady : shape.IsSteady) (known : field ∈ shape.fields)
    (shows : shape.Shows field.name view) {value : JsonValue}
    (found : value ∈ valuesOf members field.name)
    (read : shape.read (.object members true) = .ok result) :
    ∃ former next, field.set value former = .ok next ∧ view result = view next := by
  obtain ⟨before, after, rfl⟩ := List.append_of_mem (mem_values_of.mp found)
  exact view_of_member shows (find_of_mem steady known) read

theorem view_of_absent (shows : shape.Shows field.name view)
    (absent : valuesOf members field.name = [])
    (read : shape.read (.object members true) = .ok result) :
    view result = view shape.defaults := by
  obtain ⟨seen, read⟩ := read_members_of_read read
  refine view_of_read_members shows (fun value found => ?_) read
  rw [← mem_values_of, absent] at found
  cases found

end Views

section Sequences

variable {shape : JsonShape α}

theorem read_items_eq (steady : shape.IsSteady) (seen : List String) (record : α) (length : Nat)
    (later : List (JsonField α)) (items : List JsonValue)
    (known : ∀ field ∈ later, field ∈ shape.fields ∧ field.required = false ∧ field.name ∉ seen)
    (distinct : (later.map JsonField.name).Nodup) (fits : items.length ≤ later.length) :
    shape.readItems true length record later items =
      (shape.readMembers seen record
        ((later.zip items).map fun entry => (some entry.1.name, entry.2))).map Prod.snd := by
  induction later generalizing seen record length items with
  | nil =>
      rw [List.length_nil, Nat.le_zero, List.length_eq_zero_iff] at fits
      subst fits
      rfl
  | cons field later induction =>
      obtain ⟨⟨member, optional, fresh⟩, others⟩ := List.forall_mem_cons.mp known
      obtain ⟨apart, distinct⟩ := List.nodup_cons.mp distinct
      cases items with
      | nil =>
          rw [readItems, if_neg (by decide), optional, if_neg (by decide)]
          have shorter := induction seen record (length + 1) [] others distinct (Nat.zero_le _)
          rw [shorter, List.zip_nil_right, List.zip_nil_right]
      | cons item items =>
          rw [readItems, List.zip_cons_cons, List.map_cons, read_members_cons,
            find_of_mem steady member]
          dsimp only
          rw [if_neg fresh]
          cases set : field.set item record with
          | error error => rfl
          | ok next =>
              refine induction (field.name :: seen) next (length + 1) items (fun other found => ?_)
                distinct (Nat.le_of_succ_le_succ fits)
              obtain ⟨known, optional, unseen⟩ := others other found
              refine ⟨known, optional, ?_⟩
              rw [List.mem_cons, not_or]
              refine ⟨?_, unseen⟩
              intro same
              exact apart (same ▸ List.mem_map_of_mem found)

/-- A sequence is read as the object with the same items under the names of the fields, when no
field is required. -/
theorem read_array_eq (steady : shape.IsSteady)
    (optional : ∀ field ∈ shape.fields, field.required = false) {items : List JsonValue}
    (fits : items.length ≤ shape.fields.length) :
    shape.read (.array items true) = shape.read (.object (shape.positional items) true) := by
  have complete : ∀ seen : List String, (shape.fields.find? fun field =>
      field.required && !seen.contains field.name) = none := by
    intro seen
    rw [List.find?_eq_none]
    intro field known
    simp [optional field known]
  have items_eq := read_items_eq steady [] shape.defaults 0 shape.fields items
    (fun field known => ⟨known, optional field known, List.not_mem_nil⟩) steady.separate fits
  rw [read_object_eq, read, items_eq, positional]
  cases shape.readMembers [] shape.defaults
      ((shape.fields.zip items).map fun entry => (some entry.1.name, entry.2)) with
  | error error => rfl
  | ok result =>
      rw [Except.bind, complete]
      rfl

end Sequences

end SignedResponse.JsonShape
