import Mathlib.Tactic.Common
import SignedResponse.Json.Text

/-!
Strings of JSON text: how they are written, and what they say.

A string is a row of pieces, each a character or sixteen bits that an escape gives by number. Two
halves of a pair make one character; a half that stands alone makes none, and then the string has no
text. Reading accepts these rows and nothing else, and what is written is such a row.
-/

namespace SignedResponse.JsonText

/-- What a string says at one place. -/
inductive Piece where
  | char (char : Char)
  | unit (value : Nat)

def letters : List (Char × Char) :=
  [('"', '"'), ('\\', '\\'), ('/', '/'), ('b', '\x08'), ('f', '\x0c'), ('n', '\n'), ('r', '\r'),
    ('t', '\t')]

inductive Piece.IsWritten : List Char → Piece → Prop where
  | plain {char : Char} (visible : 32 ≤ char.toNat) (noQuote : char ≠ '"')
      (noEscape : char ≠ '\\') : IsWritten [char] (.char char)
  | letter {mark char : Char} (known : (mark, char) ∈ letters) :
      IsWritten ['\\', mark] (.char char)
  | number {a b c d : Char} {p q r s : Nat} (first : Hex.value? a = some p)
      (second : Hex.value? b = some q) (third : Hex.value? c = some r)
      (fourth : Hex.value? d = some s) :
      IsWritten ['\\', 'u', a, b, c, d] (.unit (((p * 16 + q) * 16 + r) * 16 + s))

/-- What stands between the quotation marks, piece by piece. -/
inductive Spells : List Char → List Piece → Prop where
  | nil : Spells [] []
  | cons {chars rest : List Char} {piece : Piece} {pieces : List Piece}
      (written : piece.IsWritten chars) (others : Spells rest pieces) :
      Spells (chars ++ rest) (piece :: pieces)

def IsHigh (unit : Nat) : Prop := 0xD800 ≤ unit ∧ unit ≤ 0xDBFF

def IsLow (unit : Nat) : Prop := 0xDC00 ≤ unit ∧ unit ≤ 0xDFFF

instance (unit : Nat) : Decidable (IsHigh unit) := inferInstanceAs (Decidable (_ ∧ _))

instance (unit : Nat) : Decidable (IsLow unit) := inferInstanceAs (Decidable (_ ∧ _))

def pair (high low : Nat) : Char := Char.ofNat (0x10000 + (high - 0xD800) * 0x400 + (low - 0xDC00))

/-- The characters that a row of pieces says, unless half of a pair stands alone in it. -/
def meaning? : List Piece → Option (List Char)
  | [] => some []
  | .char char :: rest => (meaning? rest).map (char :: ·)
  | .unit high :: .unit low :: rest =>
      if IsHigh high then
        if IsLow low then (meaning? rest).map (pair high low :: ·) else none
      else if IsLow high then none
      else (meaning? (.unit low :: rest)).map (Char.ofNat high :: ·)
  | .unit unit :: rest =>
      if IsHigh unit ∨ IsLow unit then none else (meaning? rest).map (Char.ofNat unit :: ·)

theorem letter_of_mem {mark char : Char} (known : (mark, char) ∈ letters) :
    letter? mark = some char := by
  have table : ∀ entry ∈ letters, letter? entry.1 = some entry.2 := by decide
  exact table (mark, char) known

theorem mem_letters {mark char : Char} (known : letter? mark = some char) :
    (mark, char) ∈ letters := by
  unfold letter? at known
  split_ifs at known with same same same same same same
  case pos =>
    rcases same with rfl | rfl | rfl <;> cases known <;> decide
  all_goals
    subst same
    cases known
    decide

section Reading

variable {content rest chars : List Char} {piece : Piece} {pieces : List Piece}
  {progress : Progress}

def Progress.take (progress : Progress) : Piece → Progress
  | .char char => progress.char char
  | .unit unit => progress.unit unit

theorem read_of_is_written (written : piece.IsWritten chars) :
    read progress (chars ++ rest) = read (progress.take piece) rest := by
  cases written with
  | @plain char visible noQuote noEscape =>
      rw [List.singleton_append, read]
      · refine if_neg ?_
        rintro (hidden | escape)
        · omega
        · exact noEscape escape
      · exact noQuote
      · exact fun _ _ _ _ _ escape _ => noEscape escape
      · exact fun _ _ escape _ => noEscape escape
  | @letter mark char known =>
      have other : mark ≠ 'u' := by
        rintro rfl
        revert known
        unfold letters
        simp
      rw [List.cons_append, List.singleton_append, read, letter_of_mem known]
      · rfl
      · exact fun _ _ _ _ _ same _ => other same
  | number first second third fourth =>
      change read progress ('\\' :: 'u' :: _ :: _ :: _ :: _ :: rest) = _
      rw [read, unit?, first, second, third, fourth]
      rfl

theorem read_of_spells (spells : Spells content pieces) :
    read progress (content ++ '"' :: rest) =
      some ((pieces.foldl Progress.take progress).text?, rest) := by
  induction spells generalizing progress with
  | nil => rfl
  | cons written others induction =>
      rw [List.append_assoc, read_of_is_written written, induction]
      rfl

theorem spells_of_read {text : Option String} (reading : read progress chars = some (text, rest)) :
    ∃ content pieces, chars = content ++ '"' :: rest ∧ Spells content pieces ∧
      text = (pieces.foldl Progress.take progress).text? := by
  fun_induction read progress chars with
  | case1 => cases reading
  | case2 progress after =>
      cases reading
      exact ⟨[], [], rfl, .nil, rfl⟩
  | case3 progress a b c d after unit known induction =>
      obtain ⟨content, pieces, rfl, spells, same⟩ := induction reading
      simp only [unit?, Option.bind_eq_bind, Option.bind_eq_some_iff] at known
      obtain ⟨p, first, q, second, r, third, s, fourth, value⟩ := known
      cases value
      exact ⟨_, _ :: pieces, rfl, .cons (.number first second third fourth) spells, same⟩
  | case4 => cases reading
  | case5 progress mark after _ char known induction =>
      obtain ⟨content, pieces, rfl, spells, same⟩ := induction reading
      exact ⟨_, .char char :: pieces, rfl, .cons (.letter (mem_letters known)) spells, same⟩
  | case6 => cases reading
  | case7 => cases reading
  | case8 progress char after noQuote _ _ visible induction =>
      obtain ⟨content, pieces, rfl, spells, same⟩ := induction reading
      obtain ⟨hidden, noEscape⟩ := not_or.mp visible
      have plain := Piece.IsWritten.plain (Nat.le_of_not_lt hidden) noQuote noEscape
      exact ⟨_, .char char :: pieces, rfl, .cons plain spells, same⟩

end Reading

section Meaning

variable {pieces : List Piece} {progress : Progress} {high unit : Nat}

theorem not_is_low_of_is_high (isHigh : IsHigh unit) : ¬IsLow unit := by
  intro isLow
  have := isHigh.2
  have := isLow.1
  omega

theorem meaning_unit (noHigh : ¬IsHigh unit) :
    meaning? (.unit unit :: pieces) =
      if IsLow unit then none else (meaning? pieces).map (Char.ofNat unit :: ·) := by
  rcases pieces with _ | ⟨char | other, rest⟩
  · exact if_congr (or_iff_right noHigh) rfl rfl
  · exact if_congr (or_iff_right noHigh) rfl rfl
  · rw [meaning?, if_neg noHigh]

theorem meaning_high_char (isHigh : IsHigh high) (char : Char) :
    meaning? (.unit high :: .char char :: pieces) = none := by
  rw [meaning?, if_pos (Or.inl isHigh)]
  nofun

theorem meaning_high_unit (isHigh : IsHigh high) (low : Nat) (pieces : List Piece) :
    meaning? (.unit high :: .unit low :: pieces) =
      if IsLow low then (meaning? pieces).map (pair high low :: ·) else none := by
  rw [meaning?, if_pos isHigh]

namespace Progress

def Waits (progress : Progress) : Prop := ∀ half, progress.half = some half → IsHigh half

def textWith? (progress : Progress) (pieces : List Piece) : Option String :=
  if progress.isText then
    (meaning? (progress.half.toList.map .unit ++ pieces)).map fun chars =>
      String.ofList (progress.chars.reverse ++ chars)
  else none

theorem unit_of_is_high (high : IsHigh unit) :
    progress.unit unit =
      ⟨progress.chars, some unit, progress.isText && progress.half.isNone⟩ := if_pos high

theorem unit_of_pair {chars : List Char} {isText : Bool} {half : Nat} (isLow : IsLow unit) :
    Progress.unit ⟨chars, some half, isText⟩ unit = ⟨pair half unit :: chars, none, isText⟩ :=
  (if_neg fun isHigh => not_is_low_of_is_high isHigh isLow).trans (if_pos isLow)

theorem unit_of_alone {chars : List Char} {isText : Bool} (isLow : IsLow unit) :
    Progress.unit ⟨chars, none, isText⟩ unit = ⟨chars, none, false⟩ :=
  (if_neg fun isHigh => not_is_low_of_is_high isHigh isLow).trans (if_pos isLow)

theorem unit_of_whole (noHigh : ¬IsHigh unit) (noLow : ¬IsLow unit) :
    progress.unit unit = progress.char (Char.ofNat unit) :=
  (if_neg noHigh).trans (if_neg noLow)

theorem waits_take (waits : progress.Waits) (piece : Piece) : (progress.take piece).Waits := by
  obtain ⟨chars, half, isText⟩ := progress
  rcases piece with char | unit
  · nofun
  · rw [take]
    by_cases high : IsHigh unit
    · rw [unit_of_is_high high]
      rintro _ ⟨⟩
      exact high
    · by_cases low : IsLow unit
      · cases half with
        | none =>
            rw [unit_of_alone low]
            nofun
        | some half =>
            rw [unit_of_pair low]
            nofun
      · rw [unit_of_whole high low]
        nofun

theorem text_with_nil (waits : progress.Waits) : progress.textWith? [] = progress.text? := by
  obtain ⟨chars, _ | half, isText⟩ := progress
  · cases isText <;> simp [textWith?, text?, meaning?]
  · have alone : meaning? [.unit half] = none := if_pos (Or.inl (waits half rfl))
    simp [textWith?, text?, alone]

theorem text_with_cons (waits : progress.Waits) (piece : Piece) (pieces : List Piece) :
    progress.textWith? (piece :: pieces) = (progress.take piece).textWith? pieces := by
  obtain ⟨chars, half, isText⟩ := progress
  rcases piece with char | unit
  · cases half with
    | none => simp [textWith?, take, Progress.char, meaning?, Function.comp_def]
    | some half => simp [textWith?, take, Progress.char, meaning_high_char (waits half rfl)]
  · rw [take]
    cases half with
    | none =>
        by_cases high : IsHigh unit
        · simp [textWith?, unit_of_is_high high]
        · by_cases low : IsLow unit
          · simp [textWith?, unit_of_alone low, meaning_unit high, low]
          · simp [textWith?, unit_of_whole high low, meaning_unit high, low, Progress.char,
              Function.comp_def]
    | some half =>
        have paired := meaning_high_unit (waits half rfl) unit pieces
        by_cases high : IsHigh unit
        · simp [textWith?, unit_of_is_high high, paired, not_is_low_of_is_high high]
        · by_cases low : IsLow unit
          · simp [textWith?, unit_of_pair low, paired, low, Function.comp_def]
          · simp [textWith?, unit_of_whole high low, paired, low, Progress.char]

end Progress

theorem text_foldl (waits : progress.Waits) :
    (pieces.foldl Progress.take progress).text? = progress.textWith? pieces := by
  induction pieces generalizing progress with
  | nil => exact (Progress.text_with_nil waits).symm
  | cons piece pieces induction =>
      rw [List.foldl_cons, induction (Progress.waits_take waits piece),
        Progress.text_with_cons waits]

end Meaning

/-- What a string says between its quotation marks, or that it says no text. -/
def Means (content : List Char) (text : Option String) : Prop :=
  ∃ pieces, Spells content pieces ∧ text = (meaning? pieces).map String.ofList

theorem text_start (pieces : List Piece) :
    (pieces.foldl Progress.take {}).text? = (meaning? pieces).map String.ofList :=
  text_foldl nofun

/-- Reading a string gives what is between the quotation marks its meaning. -/
theorem read_of_means {content : List Char} {text : Option String} (means : Means content text)
    (rest : List Char) : read {} (content ++ '"' :: rest) = some (text, rest) := by
  obtain ⟨pieces, spells, rfl⟩ := means
  rw [read_of_spells spells, text_start]

theorem means_of_read {chars rest : List Char} {text : Option String}
    (reading : read {} chars = some (text, rest)) :
    ∃ content, chars = content ++ '"' :: rest ∧ Means content text := by
  obtain ⟨content, pieces, rfl, spells, same⟩ := spells_of_read reading
  exact ⟨content, rfl, pieces, spells, same.trans (text_start pieces)⟩

section Writing

theorem is_written_of_control {char : Char} (control : char.toNat < 32) :
    (Piece.unit char.toNat).IsWritten (['\\', 'u', '0', '0'] ++ Hex.pair char.toNat) := by
  have whole : ((0 * 16 + 0) * 16 + char.toNat / 16) * 16 + char.toNat % 16 = char.toNat := by
    omega
  have written := Piece.IsWritten.number (a := '0') (b := '0') (p := 0) (q := 0) rfl rfl
    (Hex.value_digit_char (char.toNat / 16) (by omega))
    (Hex.value_digit_char (char.toNat % 16) (by omega))
  rw [whole] at written
  exact written

theorem eq_of_to_nat {char : Char} {code : Nat} (same : char.toNat = code) :
    char = Char.ofNat code := by
  rw [← same, Char.ofNat_toNat]

theorem exists_piece_of_letter {mark char : Char} (known : (mark, char) ∈ letters) :
    ∃ piece : Piece, piece.IsWritten ['\\', mark] ∧
      ∀ pieces, meaning? (piece :: pieces) = (meaning? pieces).map (char :: ·) :=
  ⟨.char char, .letter known, fun _ => rfl⟩

theorem exists_piece_of_escape (char : Char) :
    ∃ piece : Piece, piece.IsWritten (escape char) ∧
      ∀ pieces, meaning? (piece :: pieces) = (meaning? pieces).map (char :: ·) := by
  unfold escape
  split_ifs with quote backslash feed back tab bell form control
  · exact exists_piece_of_letter (by simp [letters, quote])
  · exact exists_piece_of_letter (by simp [letters, backslash])
  · exact exists_piece_of_letter (by simp [letters, feed])
  · exact exists_piece_of_letter (by simp [letters, back])
  · exact exists_piece_of_letter (by simp [letters, tab])
  · exact exists_piece_of_letter (by simp [letters, eq_of_to_nat bell])
  · exact exists_piece_of_letter (by simp [letters, eq_of_to_nat form])
  · refine ⟨.unit char.toNat, is_written_of_control control, fun pieces => ?_⟩
    have noHigh : ¬IsHigh char.toNat := fun isHigh => by have := isHigh.1; omega
    have noLow : ¬IsLow char.toNat := fun isLow => by have := isLow.1; omega
    rw [meaning_unit noHigh, if_neg noLow, Char.ofNat_toNat]
  · exact ⟨.char char, .plain (Nat.le_of_not_lt control) quote backslash, fun _ => rfl⟩

theorem exists_pieces_of_escape (chars : List Char) :
    ∃ pieces, Spells (chars.flatMap escape) pieces ∧ meaning? pieces = some chars := by
  induction chars with
  | nil => exact ⟨[], .nil, rfl⟩
  | cons char rest induction =>
      obtain ⟨pieces, spells, same⟩ := induction
      obtain ⟨piece, written, first⟩ := exists_piece_of_escape char
      refine ⟨piece :: pieces, .cons written spells, ?_⟩
      rw [first, same]
      rfl

theorem means_escape (chars : List Char) :
    Means (chars.flatMap escape) (some (String.ofList chars)) := by
  obtain ⟨pieces, spells, same⟩ := exists_pieces_of_escape chars
  exact ⟨pieces, spells, by rw [same]; rfl⟩

end Writing

end SignedResponse.JsonText
