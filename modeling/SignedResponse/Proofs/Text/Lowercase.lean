import Mathlib.Tactic.Common
import SignedResponse.Http.Token
import SignedResponse.Text.Lowercase

/-!
What the lower case of all scripts does to ASCII letters, and what it can be taken for.

On ASCII it is the lower case of ASCII. The only other characters whose lower case has small ASCII
letters are the Kelvin sign, which becomes `k`, and a capital i with a dot, which keeps the dot as a
character of its own. So a word of small letters without a `k` is the lower case of nothing but its
own spellings in ASCII. In which case ASCII letters are written makes no difference, not even to the
form of a sigma among them.
-/

namespace SignedResponse.Lowercase

variable {char : Char} {chars : List Char}

theorem of_ascii (holds : Char → Prop) (table : ∀ number < 128, holds (Char.ofNat number))
    (ascii : char.toNat < 128) : holds char := by
  have checked := table char.toNat ascii
  rwa [Char.ofNat_toNat] at checked

theorem to_lower_of_high (high : 128 ≤ char.toNat) : char.toLower = char := by
  unfold Char.toLower
  refine dif_neg fun upper => ?_
  have below := UInt32.le_iff_toNat_le.mp upper.2
  exact absurd (Nat.le_trans high below) (by decide)

theorem not_is_lower_of_high (high : 128 ≤ char.toNat) : char.isLower = false := by
  refine Bool.eq_false_iff.mpr fun lower => ?_
  have bounds : (decide (char.val ≥ 0x61) && decide (char.val ≤ 0x7A)) = true := lower
  have below := UInt32.le_iff_toNat_le.mp (of_decide_eq_true (Bool.and_eq_true_iff.mp bounds).2)
  exact absurd (Nat.le_trans high below) (by decide)

section Forms

theorem of_char_of_ascii (ascii : char.toNat < 128) : ofChar char = [char.toLower] :=
  of_ascii (fun char => ofChar char = [char.toLower]) (by decide +kernel) ascii

/-- A small letter other than `k`, which alone is the lower case of a character beyond ASCII. -/
def IsPlainLetter (char : Char) : Prop := char.isLower = true ∧ char ≠ 'k'

instance (char : Char) : Decidable (IsPlainLetter char) := inferInstanceAs (Decidable (_ ∧ _))

theorem not_is_plain_letter_of_nat {number : Nat} (high : 128 ≤ number) :
    ¬ IsPlainLetter (Char.ofNat number) := by
  by_cases valid : number.isValidChar
  · have same : (Char.ofNat number).toNat = number := by
      rw [Char.ofNat, dif_pos valid]
      rfl
    have ordinary : (Char.ofNat number).isLower = false := by
      apply not_is_lower_of_high
      rw [same]
      exact high
    simp [IsPlainLetter, ordinary]
  · have same : (Char.ofNat number).toNat = 0 := by
      rw [Char.ofNat, dif_neg valid]
      rfl
    have null : Char.ofNat number = Char.ofNat 0 := by
      rw [← Char.ofNat_toNat (Char.ofNat number), same]
    rw [null]
    decide

/-- The runs that go beyond ASCII lead to characters beyond ASCII, but for the Kelvin sign. -/
theorem lower_of_run : ∀ run ∈ CaseTable.runs, 128 ≤ run.last →
    128 ≤ run.lower ∨ run.first = 0x212A ∧ run.last = 0x212A ∧ run.lower = 0x6B := by
  decide +kernel

theorem exists_not_plain (high : 128 ≤ char.toNat) :
    ∃ form ∈ ofChar char, ¬ IsPlainLetter form := by
  have itself : ¬ IsPlainLetter char := by
    simp [IsPlainLetter, not_is_lower_of_high high]
  unfold ofChar
  split_ifs with dotted
  · exact ⟨'\u0307', by simp, by decide⟩
  · split
    · rename_i run found
      have bounds := List.find?_some found
      simp only [Bool.and_eq_true, decide_eq_true_eq] at bounds
      split_ifs
      · refine ⟨_, List.mem_singleton_self _, ?_⟩
        rcases lower_of_run run (List.mem_of_find?_eq_some found) (Nat.le_trans high bounds.2) with
          far | ⟨first, last, lower⟩
        · exact not_is_plain_letter_of_nat (by omega)
        · have kelvin : run.lower + (char.toNat - run.first) = 0x6B := by omega
          rw [kelvin]
          decide
      · exact ⟨char, List.mem_singleton_self _, itself⟩
    · exact ⟨char, List.mem_singleton_self _, itself⟩

end Forms

section Words

variable {before word : List Char}

theorem following_of_ascii (ascii : ∀ char ∈ chars, char.toNat < 128) :
    following before chars = chars.map Char.toLower := by
  induction chars generalizing before with
  | nil => rfl
  | cons char rest induction =>
      have notSigma : char ≠ 'Σ' := by
        rintro rfl
        exact absurd (ascii 'Σ' List.mem_cons_self) (by decide)
      have others : ∀ char ∈ rest, char.toNat < 128 :=
        fun char member => ascii char (List.mem_cons_of_mem _ member)
      simp [following, notSigma, of_char_of_ascii (ascii char List.mem_cons_self),
        induction others]

theorem ascii_of_following (plain : ∀ form ∈ following before chars, IsPlainLetter form) :
    ∀ char ∈ chars, char.toNat < 128 := by
  induction chars generalizing before with
  | nil => simp
  | cons char rest induction =>
      simp only [following, List.mem_append] at plain
      intro other member
      rcases List.mem_cons.mp member with rfl | later
      · by_contra high
        have beyond : 128 ≤ other.toNat := Nat.le_of_not_lt high
        by_cases capital : other = 'Σ'
        · have form := plain (sigma before rest) (Or.inl (by simp [capital]))
          rw [sigma] at form
          split_ifs at form <;> exact absurd form (by decide)
        · obtain ⟨form, member, foreign⟩ := exists_not_plain beyond
          exact foreign (plain form (Or.inl (by simpa [capital] using member)))
      · exact induction (fun form found => plain form (Or.inr found)) other later

theorem ascii_of_map_to_lower (plain : ∀ form ∈ chars.map Char.toLower, IsPlainLetter form) :
    ∀ char ∈ chars, char.toNat < 128 := by
  intro char member
  by_contra high
  have beyond : 128 ≤ char.toNat := Nat.le_of_not_lt high
  have form := plain char.toLower (List.mem_map_of_mem member)
  rw [to_lower_of_high beyond, IsPlainLetter, not_is_lower_of_high beyond] at form
  exact absurd form.1 (by decide)

/-- A word of plain letters is the lower case of its spellings in ASCII, and of nothing else. -/
theorem of_chars_eq_iff (plain : ∀ letter ∈ word, IsPlainLetter letter) :
    ofChars chars = word ↔ chars.map Char.toLower = word := by
  constructor
  · rintro rfl
    exact (following_of_ascii (ascii_of_following plain)).symm
  · rintro rfl
    exact following_of_ascii (ascii_of_map_to_lower plain)

end Words

section Letters

theorem to_lower_eq_sigma_iff : char.toLower = 'Σ' ↔ char = 'Σ' := by
  constructor
  · intro same
    by_cases ascii : char.toNat < 128
    · revert same
      exact of_ascii (fun char => char.toLower = 'Σ' → char = 'Σ') (by decide) ascii
    · rw [← to_lower_of_high (Nat.le_of_not_lt ascii), same]
  · rintro rfl
    decide

theorem contains_to_lower {ranges : List (Nat × Nat)}
    (table : ∀ number < 128, Ranges.contains ranges (Char.ofNat number).toLower.toNat =
      Ranges.contains ranges (Char.ofNat number).toNat) :
    Ranges.contains ranges char.toLower.toNat = Ranges.contains ranges char.toNat := by
  by_cases ascii : char.toNat < 128
  · exact of_ascii (fun char => Ranges.contains ranges char.toLower.toNat =
      Ranges.contains ranges char.toNat) table ascii
  · rw [to_lower_of_high (Nat.le_of_not_lt ascii)]

theorem starts_cased_map_to_lower (chars : List Char) :
    startsCased (chars.map Char.toLower) = startsCased chars := by
  have passed : (fun char : Char => Ranges.contains CaseTable.caseIgnorable char.toNat) ∘
      Char.toLower = fun char => Ranges.contains CaseTable.caseIgnorable char.toNat := by
    funext char
    exact contains_to_lower (by decide)
  rw [startsCased, startsCased, List.dropWhile_map, passed]
  cases chars.dropWhile fun char => Ranges.contains CaseTable.caseIgnorable char.toNat with
  | nil => rfl
  | cons char rest => exact contains_to_lower (by decide)

theorem of_char_to_lower (char : Char) : ofChar char.toLower = ofChar char := by
  by_cases ascii : char.toNat < 128
  · have small : char.toLower.toNat < 128 :=
      of_ascii (fun char => char.toLower.toNat < 128) (by decide) ascii
    have again : char.toLower.toLower = char.toLower :=
      of_ascii (fun char => char.toLower.toLower = char.toLower) (by decide) ascii
    rw [of_char_of_ascii small, of_char_of_ascii ascii, again]
  · rw [to_lower_of_high (Nat.le_of_not_lt ascii)]

theorem following_map_to_lower (before chars : List Char) :
    following (before.map Char.toLower) (chars.map Char.toLower) = following before chars := by
  induction chars generalizing before with
  | nil => rfl
  | cons char rest induction =>
      have later := induction (char :: before)
      simp only [List.map_cons] at later
      simp only [List.map_cons, following, to_lower_eq_sigma_iff, of_char_to_lower, later, sigma,
        starts_cased_map_to_lower]

/-- The case of ASCII letters makes no difference to the lower case of a text. -/
theorem of_chars_map_to_lower (chars : List Char) :
    ofChars (chars.map Char.toLower) = ofChars chars :=
  following_map_to_lower [] chars

end Letters

end SignedResponse.Lowercase
