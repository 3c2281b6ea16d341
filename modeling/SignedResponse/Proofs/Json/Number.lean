import Mathlib.Tactic.Common
import SignedResponse.Json.Shape
import SignedResponse.Proofs.Text.Decimal

/-!
Numbers of JSON text: how they are written, and which of them are natural numbers.

A literal is read as far as it goes, so it is read whole where nothing follows that could be part of
it. A natural number is a row of digits alone: with a sign, a fraction or an exponent it is none.
-/

namespace SignedResponse

namespace JsonLiteral

def IsDigits (chars : List Char) : Prop := chars ≠ [] ∧ ∀ char ∈ chars, char.isDigit = true

def IsInteger (chars : List Char) : Prop :=
  IsDigits chars ∧ (chars.head? = some '0' → chars.length = 1)

inductive IsFraction : List Char → List Char → Prop where
  | absent : IsFraction [] []
  | present {digits : List Char} (isDigits : IsDigits digits) : IsFraction ('.' :: digits) digits

inductive IsExponent : List Char → Option (Bool × List Char) → Prop where
  | absent : IsExponent [] none
  | unsigned {mark : Char} {digits : List Char} (isMark : mark = 'e' ∨ mark = 'E')
      (isDigits : IsDigits digits) : IsExponent (mark :: digits) (some (false, digits))
  | plus {mark : Char} {digits : List Char} (isMark : mark = 'e' ∨ mark = 'E')
      (isDigits : IsDigits digits) : IsExponent (mark :: '+' :: digits) (some (false, digits))
  | minus {mark : Char} {digits : List Char} (isMark : mark = 'e' ∨ mark = 'E')
      (isDigits : IsDigits digits) : IsExponent (mark :: '-' :: digits) (some (true, digits))

inductive Spells : List Char → JsonLiteral → Prop where
  | parts (negative : Bool) {integer fraction point mark : List Char}
      {exponent : Option (Bool × List Char)} (isInteger : IsInteger integer)
      (isFraction : IsFraction point fraction) (isExponent : IsExponent mark exponent) :
      Spells ((if negative then ['-'] else []) ++ (integer ++ (point ++ mark)))
        ⟨negative, integer, fraction, exponent⟩

def NoDigit (rest : List Char) : Prop := ∀ char, rest.head? = some char → char.isDigit = false

/-- Nothing comes next that could be part of a number. -/
def Ends (rest : List Char) : Prop :=
  ∀ char, rest.head? = some char → char.isDigit = false ∧ char ≠ '.' ∧ char ≠ 'e' ∧ char ≠ 'E'

variable {chars rest digits fraction written : List Char} {literal : JsonLiteral}
  {exponent : Option (Bool × List Char)}

theorem scan_digits_eq_some_iff :
    scanDigits chars = some (digits, rest) ↔
      chars = digits ++ rest ∧ IsDigits digits ∧ NoDigit rest := by
  rw [scanDigits]
  constructor
  · intro scanned
    split_ifs at scanned with empty
    cases scanned
    refine ⟨List.takeWhile_append_dropWhile.symm, ⟨empty, fun char member => ?_⟩,
      fun char first => ?_⟩
    · exact List.all_eq_true.mp List.all_takeWhile char member
    · have stopped := List.head?_dropWhile_not Char.isDigit chars
      rw [first] at stopped
      exact stopped
  · rintro ⟨rfl, ⟨nonempty, allDigits⟩, stops⟩
    have nothing : rest.takeWhile Char.isDigit = [] ∧ rest.dropWhile Char.isDigit = rest := by
      cases rest with
      | nil => exact ⟨rfl, rfl⟩
      | cons char _ =>
          have other := stops char rfl
          exact ⟨by simp [other], by simp [other]⟩
    rw [List.takeWhile_append_of_pos allDigits, List.dropWhile_append_of_pos allDigits,
      nothing.1, nothing.2, List.append_nil, if_neg nonempty]

theorem scan_integer_eq_some_iff :
    scanInteger chars = some (digits, rest) ↔
      chars = digits ++ rest ∧ IsInteger digits ∧ NoDigit rest := by
  simp only [scanInteger, Option.bind_eq_bind, Option.bind_eq_some_iff, Prod.exists,
    scan_digits_eq_some_iff, IsInteger]
  constructor
  · rintro ⟨row, after, ⟨whole, isDigits, stops⟩, scanned⟩
    split_ifs at scanned with zero
    cases scanned
    exact ⟨whole, ⟨isDigits, by tauto⟩, stops⟩
  · rintro ⟨whole, ⟨isDigits, alone⟩, stops⟩
    exact ⟨digits, rest, ⟨whole, isDigits, stops⟩, if_neg fun zero => zero.2 (alone zero.1)⟩

theorem scan_fraction_of_is_fraction (isFraction : IsFraction written fraction)
    (stops : NoDigit rest) (noPoint : rest.head? ≠ some '.') :
    scanFraction (written ++ rest) = some (fraction, rest) := by
  cases isFraction with
  | absent =>
      rw [List.nil_append, scanFraction]
      rintro after rfl
      exact noPoint rfl
  | present isDigits => exact scan_digits_eq_some_iff.mpr ⟨rfl, isDigits, stops⟩

theorem is_fraction_of_scan_fraction (scanned : scanFraction chars = some (fraction, rest)) :
    ∃ written, chars = written ++ rest ∧ IsFraction written fraction := by
  unfold scanFraction at scanned
  split at scanned
  · obtain ⟨rfl, isDigits, -⟩ := scan_digits_eq_some_iff.mp scanned
    exact ⟨'.' :: fraction, rfl, .present isDigits⟩
  · cases scanned
    exact ⟨[], rfl, .absent⟩

theorem scan_exponent_of_is_exponent (isExponent : IsExponent written exponent)
    (stops : NoDigit rest) (noMark : rest.head? ≠ some 'e' ∧ rest.head? ≠ some 'E') :
    scanExponent (written ++ rest) = some (exponent, rest) := by
  cases isExponent with
  | absent =>
      cases rest with
      | nil => rfl
      | cons char after =>
          refine if_neg ?_
          rintro (rfl | rfl)
          · exact noMark.1 rfl
          · exact noMark.2 rfl
  | @unsigned mark digits isMark isDigits =>
      have row := scan_digits_eq_some_iff.mpr ⟨rfl, isDigits, stops⟩
      have noSign : ∀ sign after, digits ++ rest = sign :: after → sign ≠ '+' ∧ sign ≠ '-' := by
        intro sign after same
        obtain ⟨first, others, rfl⟩ := List.exists_cons_of_ne_nil isDigits.1
        have digit := isDigits.2 first List.mem_cons_self
        rw [(List.cons.inj same).1] at digit
        constructor <;> rintro rfl <;> exact absurd digit (by decide)
      refine (if_pos isMark).trans ?_
      split
      · rename_i after signed
        exact absurd rfl (noSign '+' after signed).1
      · rename_i after signed
        exact absurd rfl (noSign '-' after signed).2
      · exact congrArg _ row
  | plus isMark isDigits =>
      have row := scan_digits_eq_some_iff.mpr ⟨rfl, isDigits, stops⟩
      exact (if_pos isMark).trans (congrArg _ row)
  | minus isMark isDigits =>
      have row := scan_digits_eq_some_iff.mpr ⟨rfl, isDigits, stops⟩
      exact (if_pos isMark).trans (congrArg _ row)

theorem is_exponent_of_scan_exponent (scanned : scanExponent chars = some (exponent, rest)) :
    ∃ written, chars = written ++ rest ∧ IsExponent written exponent := by
  unfold scanExponent at scanned
  split at scanned
  · split_ifs at scanned with isMark
    · obtain ⟨⟨digits, after⟩, row, same⟩ := Option.map_eq_some_iff.mp scanned
      cases same
      split at row
      · obtain ⟨rfl, isDigits, -⟩ := scan_digits_eq_some_iff.mp row
        exact ⟨_ :: '+' :: digits, rfl, .plus isMark isDigits⟩
      · obtain ⟨rfl, isDigits, -⟩ := scan_digits_eq_some_iff.mp row
        exact ⟨_ :: '-' :: digits, rfl, .minus isMark isDigits⟩
      · obtain ⟨rfl, isDigits, -⟩ := scan_digits_eq_some_iff.mp row
        exact ⟨_ :: digits, rfl, .unsigned isMark isDigits⟩
    · cases scanned
      exact ⟨[], rfl, .absent⟩
  · cases scanned
    exact ⟨[], rfl, .absent⟩

theorem not_digit_of_is_mark {mark : Char} (isMark : mark = 'e' ∨ mark = 'E') :
    mark.isDigit = false ∧ mark ≠ '.' := by
  rcases isMark with rfl | rfl <;> decide

theorem stops_at_exponent (isExponent : IsExponent written exponent) (ends : Ends rest) :
    ∀ char, (written ++ rest).head? = some char → char.isDigit = false ∧ char ≠ '.' := by
  intro char first
  cases isExponent with
  | absent => exact ⟨(ends char first).1, (ends char first).2.1⟩
  | unsigned isMark isDigits | plus isMark isDigits | minus isMark isDigits =>
      cases first
      exact not_digit_of_is_mark isMark

theorem no_digit_at_fraction (isFraction : IsFraction written fraction) (stops : NoDigit rest) :
    NoDigit (written ++ rest) := by
  cases isFraction with
  | absent => exact stops
  | present isDigits =>
      rintro _ ⟨⟩
      decide

def scanUnsigned (negative : Bool) (chars : List Char) : Option (JsonLiteral × List Char) := do
  let (integer, rest) ← scanInteger chars
  let (fraction, rest) ← scanFraction rest
  let (exponent, rest) ← scanExponent rest
  return (⟨negative, integer, fraction, exponent⟩, rest)

theorem scan_of_sign (negative : Bool) (noMinus : chars.head? ≠ some '-') :
    scan ((if negative then ['-'] else []) ++ chars) = scanUnsigned negative chars := by
  cases negative with
  | true => rfl
  | false =>
      refine (scan.eq_2 chars ?_).trans rfl
      rintro after rfl
      exact noMinus rfl

theorem exists_first (spells : Spells written literal) :
    ∃ first tail, written = first :: tail ∧ (first = '-' ∨ first.isDigit = true) := by
  obtain @⟨negative, integer, fraction, point, mark, exponent, isInteger, isFraction, isExponent⟩ :=
    spells
  cases negative with
  | true => exact ⟨'-', _, rfl, Or.inl rfl⟩
  | false =>
      obtain ⟨first, others, rfl⟩ := List.exists_cons_of_ne_nil isInteger.1.1
      exact ⟨first, _, rfl, Or.inr (isInteger.1.2 first List.mem_cons_self)⟩

theorem scan_of_spells (spells : Spells written literal) (ends : Ends rest) :
    scan (written ++ rest) = some (literal, rest) := by
  obtain @⟨negative, integer, fraction, point, mark, exponent, isInteger, isFraction, isExponent⟩ :=
    spells
  have afterFraction := stops_at_exponent isExponent ends
  have stops : NoDigit (mark ++ rest) := fun char first => (afterFraction char first).1
  have noPoint : (mark ++ rest).head? ≠ some '.' := fun first => (afterFraction '.' first).2 rfl
  have noMinus : (integer ++ (point ++ (mark ++ rest))).head? ≠ some '-' := by
    obtain ⟨first, others, rfl⟩ := List.exists_cons_of_ne_nil isInteger.1.1
    rintro ⟨⟩
    exact absurd (isInteger.1.2 '-' List.mem_cons_self) (by decide)
  have integerScanned := scan_integer_eq_some_iff.mpr
    ⟨rfl, isInteger, no_digit_at_fraction isFraction stops⟩
  have fractionScanned := scan_fraction_of_is_fraction isFraction stops noPoint
  have exponentScanned := scan_exponent_of_is_exponent isExponent
    (fun char first => (ends char first).1)
    ⟨fun first => (ends 'e' first).2.2.1 rfl, fun first => (ends 'E' first).2.2.2 rfl⟩
  simp only [List.append_assoc]
  rw [scan_of_sign negative noMinus, scanUnsigned, integerScanned]
  simp only [fractionScanned, exponentScanned, Option.bind_eq_bind, Option.bind_some]
  rfl

theorem spells_of_scan (scanned : scan chars = some (literal, rest)) :
    ∃ written, chars = written ++ rest ∧ Spells written literal := by
  obtain ⟨negative, unsigned, rfl, parts⟩ : ∃ (negative : Bool) (unsigned : List Char),
      chars = (if negative then ['-'] else []) ++ unsigned ∧
        scanUnsigned negative unsigned = some (literal, rest) := by
    by_cases minus : chars.head? = some '-'
    · obtain ⟨after, rfl⟩ := List.head?_eq_some_iff.mp minus
      exact ⟨true, after, rfl, scanned⟩
    · exact ⟨false, chars, rfl, (scan_of_sign false minus).symm.trans scanned⟩
  simp only [scanUnsigned, Option.bind_eq_bind, Option.bind_eq_some_iff, Prod.exists] at parts
  obtain ⟨integer, afterInteger, integerScanned, fraction, afterFraction, fractionScanned,
    exponent, afterExponent, exponentScanned, same⟩ := parts
  cases same
  obtain ⟨rfl, isInteger, -⟩ := scan_integer_eq_some_iff.mp integerScanned
  obtain ⟨point, rfl, isFraction⟩ := is_fraction_of_scan_fraction fractionScanned
  obtain ⟨mark, rfl, isExponent⟩ := is_exponent_of_scan_exponent exponentScanned
  refine ⟨_, ?_, .parts negative isInteger isFraction isExponent⟩
  simp only [List.append_assoc]

/-- The literal is this natural number: digits without a sign, a fraction or an exponent. -/
structure IsNatural (literal : JsonLiteral) (number : Nat) : Prop where
  unsigned : literal.negative = false
  noFraction : literal.fraction = []
  noExponent : literal.exponent = none
  value : Decimal.value literal.integer = number

def ofNatural (number : Nat) : JsonLiteral :=
  { negative := false, integer := Decimal.digits number }

theorem is_natural_of_natural (number : Nat) : (ofNatural number).IsNatural number :=
  ⟨rfl, rfl, rfl, Decimal.value_digits number⟩

theorem is_integer_digits (number : Nat) : IsInteger (Decimal.digits number) := by
  refine ⟨⟨Decimal.digits_ne_nil number, fun _ => Decimal.is_digit_of_mem_digits⟩, fun zero => ?_⟩
  obtain ⟨tail, row⟩ := List.head?_eq_some_iff.mp zero
  have same : Decimal.value tail = number := by
    rw [← Decimal.value_zeros_append 1 tail]
    exact (congrArg Decimal.value row).symm.trans (Decimal.value_digits number)
  by_cases empty : tail = []
  · rw [row, empty]
    rfl
  · have allDigits : ∀ char ∈ tail, char.isDigit = true := fun char member =>
      Decimal.is_digit_of_mem_digits (row ▸ List.mem_cons_of_mem _ member)
    have shorter := Decimal.length_digits_value_le empty allDigits
    rw [same, row, List.length_cons] at shorter
    omega

theorem spells_of_natural (number : Nat) : Spells (Decimal.digits number) (ofNatural number) := by
  have spells := Spells.parts false (is_integer_digits number) .absent .absent
  rw [List.append_nil, List.append_nil] at spells
  exact spells

theorem of_literal_of_is_natural {number : Nat} (isNatural : literal.IsNatural number)
    (small : number < UInt64.size) : JsonNumber.ofLiteral? literal = some (.integer number) := by
  obtain ⟨unsigned, noFraction, noExponent, rfl⟩ := isNatural
  rw [JsonNumber.ofLiteral?, Decimal.value_below_eq_ite (by decide), if_pos small]
  exact if_pos ⟨⟨noFraction, noExponent⟩, unsigned⟩

/-- A literal that denotes an integer from zero on is a natural number. -/
theorem is_natural_of_of_literal {value : Int}
    (denoted : JsonNumber.ofLiteral? literal = some (.integer value)) (natural : 0 ≤ value) :
    literal.IsNatural value.toNat := by
  rw [JsonNumber.ofLiteral?, Decimal.value_below_eq_ite (by decide)] at denoted
  -- Whatever is read as floating point denotes no integer.
  have noFloat : ∀ (magnitude : Option Float) (signed : Float → Float),
      (magnitude.map fun number => JsonNumber.float (signed number)) ≠ some (.integer value) := by
    intro magnitude signed same
    obtain ⟨_, -, ⟨⟩⟩ := Option.map_eq_some_iff.mp same
  split at denoted
  · rename_i whole below
    split_ifs at below
    cases below
    by_cases plain : (literal.fraction = [] ∧ literal.exponent = none) ∧ literal.negative = false
    · cases (if_pos plain).symm.trans denoted
      exact ⟨plain.2, plain.1.1, plain.1.2, rfl⟩
    · rw [if_neg plain] at denoted
      by_cases negative : (literal.fraction = [] ∧ literal.exponent = none) ∧
          0 < Decimal.value literal.integer ∧ Decimal.value literal.integer ≤ UInt64.size / 2
      · cases (if_pos negative).symm.trans denoted
        have := negative.2.1
        omega
      · exact absurd ((if_neg negative).symm.trans denoted) (noFloat _ _)
  · exact absurd denoted (noFloat _ _)

end JsonLiteral

namespace JsonValue

theorem read_natural_eq_ok_iff {limit : Nat} (small : limit ≤ UInt64.size) {expected : String}
    {value : JsonValue} {number : Nat} :
    value.readNatural limit expected = .ok number ↔
      ∃ literal, value = .number literal ∧ literal.IsNatural number ∧ number < limit := by
  constructor
  · intro read
    unfold readNatural at read
    split at read
    · rename_i literal
      split at read
      · rename_i value denoted
        split_ifs at read with bounds
        cases read
        have natural := JsonLiteral.is_natural_of_of_literal denoted bounds.1
        exact ⟨literal, rfl, natural, by omega⟩
      · cases read
      · cases read
    · cases read
  · rintro ⟨literal, rfl, isNatural, below⟩
    have denoted := JsonLiteral.of_literal_of_is_natural isNatural (Nat.lt_of_lt_of_le below small)
    rw [readNatural, denoted]
    refine (if_pos ⟨?_, ?_⟩).trans rfl
    · exact Int.natCast_nonneg number
    · exact Int.ofNat_lt.mpr below

end JsonValue

end SignedResponse
