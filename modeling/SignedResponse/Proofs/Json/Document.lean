import Mathlib.Data.List.DropRight
import SignedResponse.Json.Value
import SignedResponse.Proofs.Json.Number
import SignedResponse.Proofs.Json.Text

/-!
The grammar of JSON text, and that reading a document is exact.

A text that the grammar derives is read as the value that it is derived for, whatever blanks it has
and however its strings are escaped. What is read as complete is such a text. So a text has one
value at most, and what is shown of values holds of the texts that spell them.
-/

namespace SignedResponse.JsonValue

def IsBlanks (chars : List Char) : Prop := ∀ char ∈ chars, isBlank char = true

mutual

/-- The characters of a value, without blanks around them. -/
inductive Spells : List Char → JsonValue → Prop where
  | null : Spells "null".toList .null
  | yes : Spells "true".toList (.bool true)
  | no : Spells "false".toList (.bool false)
  | number {chars : List Char} {literal : JsonLiteral} (spells : literal.Spells chars) :
      Spells chars (.number literal)
  | string {content : List Char} {text : Option String} (means : JsonText.Means content text) :
      Spells ('"' :: (content ++ ['"'])) (.string text)
  | noItems {blanks : List Char} (blank : IsBlanks blanks) :
      Spells ('[' :: (blanks ++ [']'])) (.array [] true)
  | array {chars : List Char} {items : List JsonValue} (spells : SpellsItems chars items) :
      Spells ('[' :: (chars ++ [']'])) (.array items true)
  | noMembers {blanks : List Char} (blank : IsBlanks blanks) :
      Spells ('\x7b' :: (blanks ++ ['\x7d'])) (.object [] true)
  | object {chars : List Char} {members : List (Option String × JsonValue)}
      (spells : SpellsMembers chars members) :
      Spells ('\x7b' :: (chars ++ ['\x7d'])) (.object members true)

inductive IsDocument : List Char → JsonValue → Prop where
  | padded {before chars after : List Char} {value : JsonValue} (blankBefore : IsBlanks before)
      (spells : Spells chars value) (blankAfter : IsBlanks after) :
      IsDocument (before ++ (chars ++ after)) value

inductive SpellsItems : List Char → List JsonValue → Prop where
  | one {chars : List Char} {item : JsonValue} (first : IsDocument chars item) :
      SpellsItems chars [item]
  | more {chars rest : List Char} {item : JsonValue} {items : List JsonValue}
      (first : IsDocument chars item) (others : SpellsItems rest items) :
      SpellsItems (chars ++ ',' :: rest) (item :: items)

inductive SpellsMember : List Char → Option String × JsonValue → Prop where
  | pair {before content after chars : List Char} {name : Option String} {value : JsonValue}
      (blankBefore : IsBlanks before) (means : JsonText.Means content name)
      (blankAfter : IsBlanks after) (document : IsDocument chars value) :
      SpellsMember (before ++ '"' :: (content ++ '"' :: (after ++ ':' :: chars))) (name, value)

inductive SpellsMembers : List Char → List (Option String × JsonValue) → Prop where
  | one {chars : List Char} {member : Option String × JsonValue}
      (first : SpellsMember chars member) : SpellsMembers chars [member]
  | more {chars rest : List Char} {member : Option String × JsonValue}
      {members : List (Option String × JsonValue)} (first : SpellsMember chars member)
      (others : SpellsMembers rest members) :
      SpellsMembers (chars ++ ',' :: rest) (member :: members)

end

section Blanks

variable {before chars rest : List Char}

theorem blank_cases {char : Char} (blank : isBlank char = true) :
    char = ' ' ∨ char = '\t' ∨ char = '\n' ∨ char = '\r' := by
  simpa only [isBlank, Bool.or_eq_true, decide_eq_true_eq, or_assoc] using blank

theorem skip_blanks_append (blank : IsBlanks before) (chars : List Char) :
    skipBlanks (before ++ chars) = skipBlanks chars := List.dropWhile_append_of_pos blank

theorem skip_blanks_cons {char : Char} (rest : List Char) (visible : isBlank char = false) :
    skipBlanks (char :: rest) = char :: rest := List.dropWhile_cons_of_neg (by simp [visible])

theorem skip_blanks_skip_blanks (chars : List Char) :
    skipBlanks (skipBlanks chars) = skipBlanks chars := List.dropWhile_idempotent _ _

theorem exists_blanks (chars : List Char) :
    ∃ before, IsBlanks before ∧ chars = before ++ skipBlanks chars :=
  ⟨chars.takeWhile isBlank, List.all_eq_true.mp List.all_takeWhile,
    List.takeWhile_append_dropWhile.symm⟩

/-- After a value come blanks and a comma, a bracket or nothing, and none of these is part of a
number. -/
theorem ends_of_blanks (blank : IsBlanks before)
    (ends : JsonLiteral.Ends rest) : JsonLiteral.Ends (before ++ rest) := by
  intro char first
  cases before with
  | nil => exact ends char first
  | cons head tail =>
      cases first
      rcases blank_cases (blank char List.mem_cons_self) with rfl | rfl | rfl | rfl <;> decide

end Blanks

section Steps

variable {chars rest others : List Char} {fuel : Nat}

attribute [local simp] readValue readItems readMembers skip_blanks_cons skip_blanks_skip_blanks

theorem read_value_string {text : Option String}
    (reading : JsonText.read {} chars = some (text, rest)) :
    readValue (fuel + 1) ('"' :: chars) = (.string text, some rest) := by
  simp [isBlank, reading]

theorem read_value_no_items (closes : skipBlanks chars = ']' :: rest) :
    readValue (fuel + 1) ('[' :: chars) = (.array [] true, some rest) := by
  simp [isBlank, closes]

theorem read_value_items (open_ : (skipBlanks chars).head? ≠ some ']') :
    readValue (fuel + 1) ('[' :: chars) =
      (.array (readItems fuel (skipBlanks chars)).1 (readItems fuel (skipBlanks chars)).2.isSome,
        (readItems fuel (skipBlanks chars)).2) := by
  rw [readValue, skip_blanks_cons _ (by decide)]
  simp only
  split
  · rename_i after closes
    exact absurd (by rw [closes]; rfl) open_
  · rfl

theorem read_value_no_members (closes : skipBlanks chars = '\x7d' :: rest) :
    readValue (fuel + 1) ('\x7b' :: chars) = (.object [] true, some rest) := by
  simp [isBlank, closes]

theorem read_value_members (open_ : (skipBlanks chars).head? ≠ some '\x7d') :
    readValue (fuel + 1) ('\x7b' :: chars) =
      (.object (readMembers fuel (skipBlanks chars)).1
          (readMembers fuel (skipBlanks chars)).2.isSome,
        (readMembers fuel (skipBlanks chars)).2) := by
  rw [readValue, skip_blanks_cons _ (by decide)]
  simp only
  split
  · rename_i after closes
    exact absurd (by rw [closes]; rfl) open_
  · rfl

theorem read_value_scalar {first : Char} (visible : isBlank first = false) (noString : first ≠ '"')
    (noArray : first ≠ '[') (noObject : first ≠ '\x7b') :
    readValue (fuel + 1) (first :: rest) = readScalar (first :: rest) := by
  rw [readValue, skip_blanks_cons _ visible]
  split <;> simp_all

theorem read_value_skip_blanks (fuel : Nat) (chars : List Char) :
    readValue fuel (skipBlanks chars) = readValue fuel chars := by
  cases fuel with
  | zero => simp
  | succ fuel => simp

theorem read_items_skip_blanks (fuel : Nat) (chars : List Char) :
    readItems fuel (skipBlanks chars) = readItems fuel chars := by
  cases fuel with
  | zero => simp
  | succ fuel => simp [read_value_skip_blanks]

theorem read_members_skip_blanks (fuel : Nat) (chars : List Char) :
    readMembers fuel (skipBlanks chars) = readMembers fuel chars := by
  cases fuel with
  | zero => simp
  | succ fuel => simp

end Steps

section Reading

variable {chars rest : List Char} {value : JsonValue} {fuel : Nat}

theorem start_of_number {first : Char} (start : first = '-' ∨ first.isDigit = true) :
    isBlank first = false ∧ first ≠ ']' ∧ first ≠ '"' ∧ first ≠ '[' ∧ first ≠ '\x7b' := by
  rcases start with rfl | digit
  · decide
  · refine ⟨?_, ?_, ?_, ?_, ?_⟩
    · rw [Bool.eq_false_iff]
      intro blank
      rcases blank_cases blank with rfl | rfl | rfl | rfl <;> exact absurd digit (by decide)
    all_goals
      rintro rfl
      exact absurd digit (by decide)

theorem exists_first (spells : Spells chars value) :
    ∃ first tail, chars = first :: tail ∧ isBlank first = false ∧ first ≠ ']' := by
  cases spells with
  | number spells =>
      obtain ⟨first, tail, rfl, start⟩ := JsonLiteral.exists_first spells
      have other := start_of_number start
      exact ⟨first, tail, rfl, other.1, other.2.1⟩
  | _ => exact ⟨_, _, rfl, by decide, by decide⟩

/-- Enough fuel for every value that is spelled in so many characters. -/
def ReadsValues (fuel : Nat) : Prop :=
  ∀ chars value, Spells chars value → 2 * chars.length ≤ fuel → ∀ rest, JsonLiteral.Ends rest →
    readValue fuel (chars ++ rest) = (value, some rest)

def ReadsItems (fuel : Nat) : Prop :=
  ∀ chars items, SpellsItems chars items → 2 * chars.length + 1 ≤ fuel → ∀ rest,
    readItems fuel (chars ++ ']' :: rest) = (items, some rest)

def ReadsMembers (fuel : Nat) : Prop :=
  ∀ chars members, SpellsMembers chars members → 2 * chars.length + 1 ≤ fuel → ∀ rest,
    readMembers fuel (chars ++ '\x7d' :: rest) = (members, some rest)

def IsMark (char : Char) : Prop := char = ',' ∨ char = ']' ∨ char = '\x7d'

theorem visible_of_is_mark {mark : Char} (isMark : IsMark mark) : isBlank mark = false := by
  rcases isMark with rfl | rfl | rfl <;> decide

theorem ends_of_is_mark {mark : Char} (isMark : IsMark mark) (rest : List Char) :
    JsonLiteral.Ends (mark :: rest) := by
  rintro _ ⟨⟩
  rcases isMark with rfl | rfl | rfl <;> decide

theorem read_value_of_is_document (reads : ReadsValues fuel) (document : IsDocument chars value)
    (enough : 2 * chars.length ≤ fuel) {mark : Char} (isMark : IsMark mark) (rest : List Char) :
    ∃ after, readValue fuel (chars ++ mark :: rest) = (value, some after) ∧
      skipBlanks after = mark :: rest := by
  obtain @⟨before, chars, after, value, blankBefore, spells, blankAfter⟩ := document
  refine ⟨after ++ mark :: rest, ?_, ?_⟩
  · rw [List.length_append, List.length_append] at enough
    rw [List.append_assoc, List.append_assoc, ← read_value_skip_blanks,
      skip_blanks_append blankBefore, read_value_skip_blanks]
    exact reads chars value spells (by omega) _
      (ends_of_blanks blankAfter (ends_of_is_mark isMark rest))
  · rw [skip_blanks_append blankAfter, skip_blanks_cons rest (visible_of_is_mark isMark)]

theorem reads_items_succ (values : ReadsValues fuel) (items : ReadsItems fuel) :
    ReadsItems (fuel + 1) := by
  intro chars list spells enough rest
  cases spells with
  | one first =>
      obtain ⟨after, read, next⟩ :=
        read_value_of_is_document values first (by omega) (.inr (.inl rfl)) rest
      rw [readItems, read]
      simp only [next]
  | @more chars others item list first spells =>
      rw [List.length_append, List.length_cons] at enough
      obtain ⟨after, read, next⟩ :=
        read_value_of_is_document values first (by omega) (.inl rfl) (others ++ ']' :: rest)
      rw [List.append_assoc, List.cons_append, readItems, read]
      simp only [next, items others list spells (by omega) rest]

theorem read_members_name {before content after : List Char} {name : Option String}
    (blankBefore : IsBlanks before) (means : JsonText.Means content name)
    (blankAfter : IsBlanks after) :
    readMembers (fuel + 1) (before ++ '"' :: (content ++ '"' :: (after ++ ':' :: rest))) =
      match readValue fuel rest with
      | (value, none) => ([(name, value)], none)
      | (value, some rest) =>
          match skipBlanks rest with
          | ',' :: rest => ((name, value) :: (readMembers fuel rest).1, (readMembers fuel rest).2)
          | '\x7d' :: rest => ([(name, value)], some rest)
          | _ => ([(name, value)], none) := by
  rw [readMembers, skip_blanks_append blankBefore, skip_blanks_cons _ (by decide)]
  simp only [JsonText.read_of_means means, skip_blanks_append blankAfter]
  rw [skip_blanks_cons _ (by decide)]
  rfl

theorem reads_members_succ (values : ReadsValues fuel) (members : ReadsMembers fuel) :
    ReadsMembers (fuel + 1) := by
  intro chars list spells enough rest
  cases spells with
  | one first =>
      obtain @⟨before, content, after, chars, name, value, blankBefore, means, blankAfter, document⟩
        := first
      simp only [List.length_append, List.length_cons] at enough
      obtain ⟨_, read, next⟩ :=
        read_value_of_is_document values document (by omega) (.inr (.inr rfl)) rest
      simp only [List.append_assoc, List.cons_append]
      rw [read_members_name blankBefore means blankAfter, read]
      simp only [next]
  | @more _ others member list first spells =>
      obtain @⟨before, content, after, chars, name, value, blankBefore, means, blankAfter, document⟩
        := first
      simp only [List.length_append, List.length_cons] at enough
      obtain ⟨_, read, next⟩ :=
        read_value_of_is_document values document (by omega) (.inl rfl) (others ++ '\x7d' :: rest)
      simp only [List.append_assoc, List.cons_append]
      rw [read_members_name blankBefore means blankAfter, read]
      simp only [next, members others list spells (by omega) rest]

theorem head_of_is_document (document : IsDocument chars value) (rest : List Char) :
    (skipBlanks (chars ++ rest)).head? ≠ some ']' := by
  obtain ⟨blankBefore, spells, -⟩ := document
  obtain ⟨first, tail, rfl, visible, noClose⟩ := exists_first spells
  rw [List.append_assoc, skip_blanks_append blankBefore, List.cons_append, List.cons_append,
    skip_blanks_cons _ visible]
  rintro ⟨⟩
  exact noClose rfl

theorem head_of_spells_items {items : List JsonValue} (spells : SpellsItems chars items)
    (rest : List Char) : (skipBlanks (chars ++ rest)).head? ≠ some ']' := by
  cases spells with
  | one first => exact head_of_is_document first rest
  | more first others =>
      rw [List.append_assoc]
      exact head_of_is_document first _

theorem head_of_spells_member {member : Option String × JsonValue}
    (spells : SpellsMember chars member) (rest : List Char) :
    (skipBlanks (chars ++ rest)).head? ≠ some '\x7d' := by
  obtain ⟨blankBefore, -, -, -⟩ := spells
  rw [List.append_assoc, skip_blanks_append blankBefore, List.cons_append,
    skip_blanks_cons _ (by decide)]
  nofun

theorem head_of_spells_members {members : List (Option String × JsonValue)}
    (spells : SpellsMembers chars members) (rest : List Char) :
    (skipBlanks (chars ++ rest)).head? ≠ some '\x7d' := by
  cases spells with
  | one first => exact head_of_spells_member first rest
  | more first others =>
      rw [List.append_assoc]
      exact head_of_spells_member first _

theorem read_scalar_of_number {literal : JsonLiteral} (spells : literal.Spells chars)
    (ends : JsonLiteral.Ends rest) : readScalar (chars ++ rest) = (.number literal, some rest) := by
  rw [readScalar, JsonLiteral.scan_of_spells spells ends]

theorem reads_values_succ (items : ReadsItems fuel) (members : ReadsMembers fuel) :
    ReadsValues (fuel + 1) := by
  intro chars value spells enough rest ends
  cases spells with
  | null => rfl
  | yes => rfl
  | no => rfl
  | number spells =>
      obtain ⟨first, tail, rfl, start⟩ := JsonLiteral.exists_first spells
      obtain ⟨visible, -, noString, noArray, noObject⟩ := start_of_number start
      rw [List.cons_append, read_value_scalar visible noString noArray noObject]
      exact read_scalar_of_number spells ends
  | string means =>
      rw [List.cons_append, List.append_assoc]
      exact read_value_string (JsonText.read_of_means means rest)
  | noItems blank =>
      rw [List.cons_append, List.append_assoc]
      apply read_value_no_items
      rw [skip_blanks_append blank]
      exact skip_blanks_cons rest (by decide)
  | array spells =>
      simp only [List.length_cons, List.length_append] at enough
      have read := items _ _ spells (by omega) rest
      rw [List.cons_append, List.append_assoc, List.singleton_append,
        read_value_items (head_of_spells_items spells _), read_items_skip_blanks, read]
      rfl
  | noMembers blank =>
      rw [List.cons_append, List.append_assoc]
      apply read_value_no_members
      rw [skip_blanks_append blank]
      exact skip_blanks_cons rest (by decide)
  | object spells =>
      simp only [List.length_cons, List.length_append] at enough
      have read := members _ _ spells (by omega) rest
      rw [List.cons_append, List.append_assoc, List.singleton_append,
        read_value_members (head_of_spells_members spells _), read_members_skip_blanks, read]
      rfl

/-- With enough fuel all that the grammar derives is read, by induction on the fuel. -/
theorem reads_all (fuel : Nat) : ReadsValues fuel ∧ ReadsItems fuel ∧ ReadsMembers fuel := by
  induction fuel with
  | zero =>
      refine ⟨fun chars value spells enough => ?_, fun _ _ _ enough => by omega,
        fun _ _ _ enough => by omega⟩
      obtain ⟨first, tail, rfl, -⟩ := exists_first spells
      rw [List.length_cons] at enough
      omega
  | succ fuel induction =>
      obtain ⟨values, items, members⟩ := induction
      exact ⟨reads_values_succ items members, reads_items_succ values items,
        reads_members_succ values members⟩

/-- A text that the grammar derives is read whole. -/
theorem read_document_of_is_document (document : IsDocument chars value) :
    readDocument chars = (value, true) := by
  obtain @⟨before, chars, after, value, blankBefore, spells, blankAfter⟩ := document
  have ends : JsonLiteral.Ends (after ++ []) := ends_of_blanks blankAfter nofun
  have read : readValue (2 * (before ++ (chars ++ after)).length + 1) (before ++ (chars ++ after)) =
      (value, some after) := by
    rw [← read_value_skip_blanks, skip_blanks_append blankBefore, read_value_skip_blanks]
    rw [List.append_nil] at ends
    refine (reads_all _).1 chars value spells ?_ after ends
    rw [List.length_append, List.length_append]
    omega
  have nothing : skipBlanks after = [] := by
    have skipped := skip_blanks_append blankAfter []
    rw [List.append_nil] at skipped
    exact skipped
  rw [readDocument, read]
  simp only [nothing, decide_true]

end Reading

section Spelling

variable {chars rest : List Char} {value : JsonValue} {fuel : Nat}

def SpelledValues (fuel : Nat) : Prop :=
  ∀ chars value rest, readValue fuel chars = (value, some rest) →
    ∃ before text, chars = before ++ (text ++ rest) ∧ IsBlanks before ∧ Spells text value

def SpelledItems (fuel : Nat) : Prop :=
  ∀ chars items rest, readItems fuel chars = (items, some rest) →
    ∃ text, chars = text ++ ']' :: rest ∧ SpellsItems text items

def SpelledMembers (fuel : Nat) : Prop :=
  ∀ chars members rest, readMembers fuel chars = (members, some rest) →
    ∃ text, chars = text ++ '\x7d' :: rest ∧ SpellsMembers text members

theorem is_document_of_read (spelled : SpelledValues fuel)
    (read : readValue fuel chars = (value, some rest)) {mark : Char} {after : List Char}
    (next : skipBlanks rest = mark :: after) :
    ∃ text, chars = text ++ mark :: after ∧ IsDocument text value := by
  obtain ⟨before, text, rfl, blankBefore, spells⟩ := spelled chars value rest read
  obtain ⟨blanks, blankAfter, split⟩ := exists_blanks rest
  rw [next] at split
  refine ⟨before ++ (text ++ blanks), ?_, .padded blankBefore spells blankAfter⟩
  rw [split, List.append_assoc, List.append_assoc]

theorem spelled_items_succ (values : SpelledValues fuel) (items : SpelledItems fuel) :
    SpelledItems (fuel + 1) := by
  intro chars list rest read
  rw [readItems] at read
  split at read
  · cases read
  · rename_i item after first
    split at read
    · rename_i others next
      obtain ⟨text, rfl, document⟩ := is_document_of_read values first next
      cases second : readItems fuel others with
      | mk more last =>
          rw [second] at read
          cases read
          obtain ⟨more, rfl, spells⟩ := items others _ rest second
          exact ⟨text ++ ',' :: more, by rw [List.append_assoc]; rfl, .more document spells⟩
    · rename_i next
      cases read
      obtain ⟨text, rfl, document⟩ := is_document_of_read values first next
      exact ⟨text, rfl, .one document⟩
    · cases read

theorem spelled_members_succ (values : SpelledValues fuel) (members : SpelledMembers fuel) :
    SpelledMembers (fuel + 1) := by
  intro chars list rest read
  rw [readMembers] at read
  obtain ⟨before, blankBefore, split⟩ := exists_blanks chars
  split at read
  · rename_i quoted start
    split at read
    · cases read
    · rename_i name afterName named
      obtain ⟨content, rfl, means⟩ := JsonText.means_of_read named
      obtain ⟨blanks, blankAfter, gap⟩ := exists_blanks afterName
      split at read
      · rename_i afterColon colon
        rw [start] at split
        rw [colon] at gap
        subst gap
        subst split
        split at read
        · cases read
        · rename_i value afterValue first
          split at read
          · rename_i others next
            obtain ⟨text, rfl, document⟩ := is_document_of_read values first next
            cases second : readMembers fuel others with
            | mk more last =>
                rw [second] at read
                cases read
                obtain ⟨more, rfl, spells⟩ := members others _ rest second
                exact ⟨_, by simp only [List.append_assoc, List.cons_append],
                  .more (.pair blankBefore means blankAfter document) spells⟩
          · rename_i next
            cases read
            obtain ⟨text, rfl, document⟩ := is_document_of_read values first next
            exact ⟨_, by simp only [List.append_assoc, List.cons_append],
              .one (.pair blankBefore means blankAfter document)⟩
          · cases read
      · cases read
  · cases read

theorem eq_append_drop {name : List Char} (starts : name.isPrefixOf chars = true) :
    chars = name ++ chars.drop name.length := by
  obtain ⟨rest, rfl⟩ : name <+: chars := by simpa using starts
  rw [List.drop_left]

theorem spells_of_read_name (read : readName chars = (value, some rest)) :
    ∃ text, chars = text ++ rest ∧ Spells text value := by
  unfold readName at read
  split_ifs at read with null yes no
  · cases read
    exact ⟨_, eq_append_drop null, .null⟩
  · cases read
    exact ⟨_, eq_append_drop yes, .yes⟩
  · cases read
    exact ⟨_, eq_append_drop no, .no⟩
  · cases read

theorem spells_of_read_scalar (read : readScalar chars = (value, some rest)) :
    ∃ text, chars = text ++ rest ∧ Spells text value := by
  unfold readScalar at read
  split at read
  · rename_i literal after scanned
    cases read
    obtain ⟨text, rfl, spells⟩ := JsonLiteral.spells_of_scan scanned
    exact ⟨text, rfl, .number spells⟩
  · exact spells_of_read_name read

theorem spelled_values_succ (items : SpelledItems fuel) (members : SpelledMembers fuel) :
    SpelledValues (fuel + 1) := by
  intro chars value rest read
  obtain ⟨before, blankBefore, split⟩ := exists_blanks chars
  suffices ∃ text, skipBlanks chars = text ++ rest ∧ Spells text value by
    obtain ⟨text, same, spells⟩ := this
    exact ⟨before, text, same ▸ split, blankBefore, spells⟩
  rw [readValue] at read
  split at read
  · rename_i quoted start
    split at read
    · rename_i text after named
      cases read
      obtain ⟨content, rfl, means⟩ := JsonText.means_of_read named
      exact ⟨_, by rw [start, List.cons_append, List.append_assoc]; rfl, .string means⟩
    · cases read
  · rename_i inner start
    obtain ⟨blanks, blank, gap⟩ := exists_blanks inner
    split at read
    · rename_i after closes
      cases read
      rw [closes] at gap
      subst gap
      exact ⟨_, by rw [start, List.cons_append, List.append_assoc]; rfl, .noItems blank⟩
    · cases first : readItems fuel (skipBlanks inner) with
      | mk list last =>
          rw [first] at read
          cases read
          rw [read_items_skip_blanks] at first
          obtain ⟨text, rfl, spells⟩ := items inner list rest first
          exact ⟨_, by rw [start, List.cons_append, List.append_assoc]; rfl, .array spells⟩
  · rename_i inner start
    obtain ⟨blanks, blank, gap⟩ := exists_blanks inner
    split at read
    · rename_i after closes
      cases read
      rw [closes] at gap
      subst gap
      exact ⟨_, by rw [start, List.cons_append, List.append_assoc]; rfl, .noMembers blank⟩
    · cases first : readMembers fuel (skipBlanks inner) with
      | mk list last =>
          rw [first] at read
          cases read
          rw [read_members_skip_blanks] at first
          obtain ⟨text, rfl, spells⟩ := members inner list rest first
          exact ⟨_, by rw [start, List.cons_append, List.append_assoc]; rfl, .object spells⟩
  · exact spells_of_read_scalar read

theorem spelled_all (fuel : Nat) :
    SpelledValues fuel ∧ SpelledItems fuel ∧ SpelledMembers fuel := by
  induction fuel with
  | zero =>
      refine ⟨fun _ _ _ read => ?_, fun _ _ _ read => ?_, fun _ _ _ read => ?_⟩
      · cases read
      · cases read
      · cases read
  | succ fuel induction =>
      obtain ⟨values, items, members⟩ := induction
      exact ⟨spelled_values_succ items members, spelled_items_succ values items,
        spelled_members_succ values members⟩

theorem is_document_of_read_document (read : readDocument chars = (value, true)) :
    IsDocument chars value := by
  unfold readDocument at read
  split at read
  · rename_i found after first
    obtain ⟨rfl, nothing⟩ := Prod.mk.inj read
    obtain ⟨before, text, rfl, blankBefore, spells⟩ := (spelled_all _).1 _ _ _ first
    obtain ⟨blanks, blankAfter, split⟩ := exists_blanks after
    rw [of_decide_eq_true nothing, List.append_nil] at split
    exact .padded blankBefore spells (split ▸ blankAfter)
  · cases read

end Spelling

/-- Reading a document is exact: it takes the texts of the grammar, each for its value. -/
theorem read_document_eq_iff {chars : List Char} {value : JsonValue} :
    readDocument chars = (value, true) ↔ IsDocument chars value :=
  ⟨is_document_of_read_document, read_document_of_is_document⟩

section Writing

variable {chars : List Char} {value : JsonValue}

theorem is_document_of_spells (spells : Spells chars value) : IsDocument chars value := by
  have document := IsDocument.padded (List.forall_mem_nil _) spells (List.forall_mem_nil _)
  rwa [List.append_nil, List.nil_append] at document

theorem spells_write (chars : List Char) :
    Spells (JsonText.write chars) (.string (some (String.ofList chars))) :=
  .string (JsonText.means_escape chars)

theorem spells_member_write (name : String) (spells : Spells chars value) :
    SpellsMember (JsonText.write name.toList ++ ':' :: chars) (some name, value) := by
  have member := SpellsMember.pair (List.forall_mem_nil _) (JsonText.means_escape name.toList)
    (List.forall_mem_nil _) (is_document_of_spells spells)
  rw [String.ofList_toList] at member
  rw [JsonText.write, List.cons_append, List.cons_append, List.append_assoc]
  exact member

theorem spells_members_write (first : String × List Char × JsonValue)
    (others : List (String × List Char × JsonValue))
    (spelled : ∀ entry ∈ first :: others, Spells entry.2.1 entry.2.2) :
    SpellsMembers
      (((first :: others).map fun entry =>
        JsonText.write entry.1.toList ++ ':' :: entry.2.1).intersperse [',']).flatten
      ((first :: others).map fun entry => (some entry.1, entry.2.2)) := by
  induction others generalizing first with
  | nil =>
      rw [List.map_singleton, List.intersperse_singleton, List.flatten_singleton]
      exact .one (spells_member_write first.1 (spelled first List.mem_cons_self))
  | cons next others induction =>
      rw [List.map_cons, List.map_cons, List.intersperse_cons_cons, List.flatten_cons,
        List.flatten_cons, List.singleton_append]
      exact .more (spells_member_write first.1 (spelled first List.mem_cons_self))
        (induction next fun entry member => spelled entry (List.mem_cons_of_mem _ member))

theorem spells_write_object (entries : List (String × List Char × JsonValue))
    (spelled : ∀ entry ∈ entries, Spells entry.2.1 entry.2.2) :
    Spells (JsonText.writeObject (entries.map fun entry => (entry.1, entry.2.1)))
      (.object (entries.map fun entry => (some entry.1, entry.2.2)) true) := by
  rw [JsonText.writeObject, List.map_map]
  cases entries with
  | nil => exact .noMembers (List.forall_mem_nil _)
  | cons first others => exact .object (spells_members_write first others spelled)

end Writing

end SignedResponse.JsonValue
