import Mathlib.Data.List.TakeWhile
import Mathlib.Tactic.Common
import SignedResponse.Text.Blank

/-!
What is left of a text without the blanks around it.

A text has one core: it lies between blanks and has none at its ends. Trimming finds it, so blanks
that are put around a text make no difference to what trimming leaves.
-/

namespace SignedResponse.Blank

variable {chars core before after : List Char}

/-- The text is the core with nothing but blanks around it, and the core has none at its ends. -/
structure IsCore (chars core : List Char) : Prop where
  surrounded : ∃ before after : List Char, (∀ char ∈ before, isBlank char = true) ∧
    (∀ char ∈ after, isBlank char = true) ∧ chars = before ++ (core ++ after)
  first : ∀ char, core.head? = some char → isBlank char = false
  last : ∀ char, core.getLast? = some char → isBlank char = false

theorem drop_while_of_boundary (blank : ∀ char ∈ before, isBlank char = true)
    (boundary : ∀ char, chars.head? = some char → isBlank char = false) :
    (before ++ chars).dropWhile isBlank = chars := by
  rw [List.dropWhile_append_of_pos blank]
  cases chars with
  | nil => rfl
  | cons first rest => simp [boundary first rfl]

theorem IsCore.trim_eq (lies : IsCore chars core) : trim chars = core := by
  obtain ⟨before, after, blankBefore, blankAfter, rfl⟩ := lies.surrounded
  have fromEnd : (after.reverse ++ core.reverse).dropWhile isBlank = core.reverse := by
    apply drop_while_of_boundary
    · simpa using blankAfter
    · simpa using lies.last
  cases core with
  | nil =>
      have all : ∀ char ∈ before ++ after, isBlank char = true := by
        intro char member
        exact (List.mem_append.mp member).elim (blankBefore char) (blankAfter char)
      have fromStart : (before ++ after ++ []).dropWhile isBlank = [] :=
        drop_while_of_boundary all (by simp)
      rw [List.append_nil] at fromStart
      simp [trim, fromStart]
  | cons first rest =>
      have fromStart : (before ++ (first :: rest ++ after)).dropWhile isBlank =
          first :: rest ++ after := by
        apply drop_while_of_boundary blankBefore
        intro char same
        exact lies.first char same
      rw [trim, fromStart, List.reverse_append, fromEnd, List.reverse_reverse]

theorem drop_while_eq_trim_append (chars : List Char) :
    chars.dropWhile isBlank =
      trim chars ++ ((chars.dropWhile isBlank).reverse.takeWhile isBlank).reverse := by
  rw [trim, ← List.reverse_append, List.takeWhile_append_dropWhile, List.reverse_reverse]

theorem exists_trim (chars : List Char) :
    ∃ before after : List Char, (∀ char ∈ before, isBlank char = true) ∧
      (∀ char ∈ after, isBlank char = true) ∧ chars = before ++ (trim chars ++ after) := by
  have blank : ∀ part : List Char, ∀ char ∈ part.takeWhile isBlank, isBlank char = true :=
    fun _ _ member => List.mem_takeWhile_imp member
  refine ⟨chars.takeWhile isBlank,
    ((chars.dropWhile isBlank).reverse.takeWhile isBlank).reverse, blank _, ?_, ?_⟩
  · intro char member
    exact blank _ char (List.mem_reverse.mp member)
  · rw [← drop_while_eq_trim_append]
    exact (List.takeWhile_append_dropWhile ..).symm

theorem is_blank_of_head_drop_while {char : Char}
    (first : (chars.dropWhile isBlank).head? = some char) : isBlank char = false := by
  have stopped := List.head?_dropWhile_not isBlank chars
  rw [first] at stopped
  simpa using stopped

theorem is_core_trim (chars : List Char) : IsCore chars (trim chars) where
  surrounded := exists_trim chars
  first := by
    intro char found
    -- What is taken off at the end leaves the first character alone.
    have stays : (chars.dropWhile isBlank).head? = some char := by
      rw [drop_while_eq_trim_append, List.head?_append, found, Option.some_or]
    exact is_blank_of_head_drop_while stays
  last := by
    intro char found
    rw [trim, List.getLast?_reverse] at found
    exact is_blank_of_head_drop_while found

/-- A text has one core, which trimming finds. -/
theorem is_core_iff : IsCore chars core ↔ trim chars = core :=
  ⟨IsCore.trim_eq, fun same => same ▸ is_core_trim chars⟩

theorem IsCore.surround (lies : IsCore chars core)
    (blankBefore : ∀ char ∈ before, isBlank char = true)
    (blankAfter : ∀ char ∈ after, isBlank char = true) :
    IsCore (before ++ (chars ++ after)) core where
  surrounded := by
    obtain ⟨left, right, blankLeft, blankRight, rfl⟩ := lies.surrounded
    refine ⟨before ++ left, right ++ after, ?_, ?_, by simp⟩
    · intro char member
      exact (List.mem_append.mp member).elim (blankBefore char) (blankLeft char)
    · intro char member
      exact (List.mem_append.mp member).elim (blankRight char) (blankAfter char)
  first := lies.first
  last := lies.last

theorem is_core_of_clean (clean : ∀ char ∈ chars, isBlank char = false) : IsCore chars chars where
  surrounded := ⟨[], [], by simp, by simp, by simp⟩
  first char found := clean char (List.mem_of_mem_head? found)
  last char found := clean char (List.mem_of_mem_getLast? found)

theorem trim_of_surrounded (blankBefore : ∀ char ∈ before, isBlank char = true)
    (blankAfter : ∀ char ∈ after, isBlank char = true)
    (clean : ∀ char ∈ chars, isBlank char = false) : trim (before ++ (chars ++ after)) = chars :=
  ((is_core_of_clean clean).surround blankBefore blankAfter).trim_eq

theorem is_blank_of_is_digit {char : Char} (digit : char.isDigit = true) :
    isBlank char = false := by
  have table : ∀ number < 58, 48 ≤ number → isBlank (Char.ofNat number) = false := by decide
  have low : 48 ≤ char.toNat := (Char.isDigit_iff_toNat.mp digit).1
  have high : char.toNat ≤ 57 := (Char.isDigit_iff_toNat.mp digit).2
  have checked := table char.toNat (by omega) low
  rwa [Char.ofNat_toNat] at checked

end SignedResponse.Blank
