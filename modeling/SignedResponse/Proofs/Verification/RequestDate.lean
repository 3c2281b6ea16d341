import Mathlib.Algebra.Group.Nat.Defs
import Mathlib.Tactic.Common
import SignedResponse.Crypto.Ed25519
import SignedResponse.Proofs.Signature.Binding
import SignedResponse.Proofs.Text.Decimal
import SignedResponse.Proofs.Verification.Effects
import SignedResponse.Proofs.Verification.Judgement

/-!
How the date header of a response may be written, and what is signed for it.

The header is described by its bytes alone: spaces and tabs, a plus sign or none, digits. Whatever
the spelling, what is signed is the shortest one.
-/

namespace SignedResponse

namespace HeaderValue

def IsBlank (byte : UInt8) : Prop := byte = 0x20 ∨ byte = 0x09

instance (byte : UInt8) : Decidable (IsBlank byte) := inferInstanceAs (Decidable (_ ∨ _))

/-- The bytes tell a number in decimal: one digit or more, with a plus sign or none before them and
any spaces and tabs around. -/
def IsNumber (bytes : List UInt8) (number : Nat) : Prop :=
  ∃ before sign row after : List UInt8,
    (∀ byte ∈ before, IsBlank byte) ∧ (∀ byte ∈ after, IsBlank byte) ∧
      (sign = [] ∨ sign = [0x2B]) ∧ row ≠ [] ∧ (∀ digit ∈ row, 0x30 ≤ digit ∧ digit ≤ 0x39) ∧
        row.foldl (fun number digit => 10 * number + (digit.toNat - 0x30)) 0 = number ∧
          bytes = before ++ ((sign ++ row) ++ after)

/-- What is no number, or none that 64 bits hold. -/
inductive IsNoDate : List UInt8 → Prop
  | blank (bytes) (blank : ∀ byte ∈ bytes, IsBlank byte) : IsNoDate bytes
  | loneSign (before after) (blankBefore : ∀ byte ∈ before, IsBlank byte)
      (blankAfter : ∀ byte ∈ after, IsBlank byte) : IsNoDate (before ++ ([0x2B] ++ after))
  | minus (bytes) (member : 0x2D ∈ bytes) : IsNoDate bytes
  | parted (left blank right) (between : IsBlank blank)
      (something : ∃ byte ∈ left, ¬ IsBlank byte) (more : ∃ byte ∈ right, ¬ IsBlank byte) :
      IsNoDate (left ++ blank :: right)
  | tooLarge (bytes number) (isNumber : IsNumber bytes number) (large : 2 ^ 64 ≤ number) :
      IsNoDate bytes

def asChar (byte : UInt8) : Char := Char.ofNat byte.toNat

theorem to_nat_as_char (byte : UInt8) : (asChar byte).toNat = byte.toNat := by
  have bound := byte.toNat_lt
  have valid : byte.toNat.isValidChar := Or.inl (by omega)
  rw [asChar, Char.ofNat, dif_pos valid]
  rfl

theorem as_char_eq_plus_iff (byte : UInt8) : asChar byte = '+' ↔ byte = 0x2B := by
  rw [← Char.toNat_inj, to_nat_as_char, ← UInt8.toNat_inj]
  rfl

theorem is_digit_as_char_iff (byte : UInt8) :
    (asChar byte).isDigit = true ↔ 0x30 ≤ byte ∧ byte ≤ 0x39 := by
  rw [Char.isDigit_iff_toNat, to_nat_as_char, UInt8.le_iff_toNat_le, UInt8.le_iff_toNat_le]
  rfl

theorem is_readable_of_digit (byte : UInt8) (digit : 0x30 ≤ byte ∧ byte ≤ 0x39) :
    isReadable byte = true := by
  obtain ⟨low, high⟩ := digit
  rw [UInt8.le_iff_toNat_le] at low high
  change 48 ≤ byte.toNat at low
  change byte.toNat ≤ 57 at high
  exact (is_readable_iff byte).mpr (by omega)

theorem is_blank_as_char_iff (byte : UInt8) (readable : isReadable byte = true) :
    Blank.isBlank (asChar byte) = true ↔ IsBlank byte := by
  rw [is_readable_iff] at readable
  rw [IsBlank, ← UInt8.toNat_inj, ← UInt8.toNat_inj]
  simp only [Blank.isBlank, to_nat_as_char, Blank.ranges, Ranges.contains]
  grind

theorem value_map_as_char (row : List UInt8) :
    Decimal.value (row.map asChar) =
      row.foldl (fun number digit => 10 * number + (digit.toNat - 0x30)) 0 := by
  rw [Decimal.value, Nat.ofDigitChars_eq_foldl, List.foldl_map]
  simp only [to_nat_as_char]
  rfl

theorem IsNumber.readable {bytes : List UInt8} {number : Nat} (isNumber : IsNumber bytes number) :
    ∀ byte ∈ bytes, isReadable byte = true := by
  obtain ⟨before, sign, row, after, blankBefore, blankAfter, signed, -, digits, -, rfl⟩ := isNumber
  have blank : ∀ byte, IsBlank byte → isReadable byte = true := by
    rintro byte (rfl | rfl) <;> decide
  intro byte member
  simp only [List.mem_append] at member
  rcases member with found | (found | found) | found
  · exact blank byte (blankBefore byte found)
  · rcases signed with rfl | rfl
    · cases found
    · rw [List.mem_singleton.mp found]
      decide
  · exact is_readable_of_digit byte (digits byte found)
  · exact blank byte (blankAfter byte found)

theorem is_number_iff {bytes : List UInt8} {number : Nat} :
    IsNumber bytes number ↔
      (∀ byte ∈ bytes, isReadable byte = true) ∧ Decimal.Spells number (bytes.map asChar) := by
  constructor
  · intro isNumber
    refine ⟨isNumber.readable, ?_⟩
    have readable := isNumber.readable
    obtain ⟨before, sign, row, after, blankBefore, blankAfter, signed, nonempty, digits, rfl,
      rfl⟩ := isNumber
    refine Decimal.spells_iff.mpr ⟨before.map asChar, after.map asChar, sign.map asChar,
      row.map asChar, ?_, ?_, ?_, ?_, ?_, value_map_as_char row, ?_⟩
    · intro char member
      obtain ⟨byte, found, rfl⟩ := List.mem_map.mp member
      exact (is_blank_as_char_iff byte (readable byte (by simp [found]))).mpr
        (blankBefore byte found)
    · intro char member
      obtain ⟨byte, found, rfl⟩ := List.mem_map.mp member
      exact (is_blank_as_char_iff byte (readable byte (by simp [found]))).mpr
        (blankAfter byte found)
    · rcases signed with rfl | rfl
      · exact Or.inl rfl
      · exact Or.inr (by decide)
    · exact fun empty => nonempty (List.map_eq_nil_iff.mp empty)
    · intro char member
      obtain ⟨byte, found, rfl⟩ := List.mem_map.mp member
      exact (is_digit_as_char_iff byte).mpr (digits byte found)
    · simp only [List.map_append]
  · rintro ⟨readable, spells⟩
    obtain ⟨_, _, _, _, blankBefore, blankAfter, signed, nonempty, digits, rfl, whole⟩ :=
      Decimal.spells_iff.mp spells
    obtain ⟨before, _, rfl, rfl, trailed⟩ := List.map_eq_append_iff.mp whole
    obtain ⟨_, after, rfl, core, rfl⟩ := List.map_eq_append_iff.mp trailed
    obtain ⟨sign, row, rfl, rfl, rfl⟩ := List.map_eq_append_iff.mp core
    refine ⟨before, sign, row, after, ?_, ?_, ?_, ?_, ?_, (value_map_as_char row).symm, rfl⟩
    · intro byte member
      exact (is_blank_as_char_iff byte (readable byte (by simp [member]))).mp
        (blankBefore _ (List.mem_map_of_mem member))
    · intro byte member
      exact (is_blank_as_char_iff byte (readable byte (by simp [member]))).mp
        (blankAfter _ (List.mem_map_of_mem member))
    · rcases signed with empty | plus
      · exact Or.inl (List.map_eq_nil_iff.mp empty)
      · obtain ⟨byte, rfl, same⟩ := List.map_eq_singleton_iff.mp plus
        rw [(as_char_eq_plus_iff byte).mp same]
        exact Or.inr rfl
    · exact fun empty => nonempty (List.map_eq_nil_iff.mpr empty)
    · intro byte member
      exact (is_digit_as_char_iff byte).mp (digits _ (List.mem_map_of_mem member))

theorem text_eq_some_iff {value : HeaderValue} {text : String} :
    value.text? = some text ↔
      (∀ byte ∈ value.bytes, isReadable byte = true) ∧ text.toList = value.bytes.map asChar := by
  rw [text?, ← List.all_eq_true]
  by_cases readable : value.bytes.all isReadable = true
  · rw [if_pos readable, Option.some.injEq, ← String.toList_inj, String.toList_ofList]
    simp only [readable, true_and]
    exact eq_comm
  · simp [readable]

/-- A number has one written form without blanks, sign and zeros, and no form is shorter. -/
theorem IsNumber.length_digits_le {bytes : List UInt8} {number : Nat}
    (isNumber : IsNumber bytes number) : (Decimal.digits number).length ≤ bytes.length := by
  obtain ⟨-, before, after, sign, row, -, -, -, nonempty, digits, rfl, whole⟩ :=
    is_number_iff.mp isNumber |>.imp_right Decimal.spells_iff.mp
  have lengths := congrArg List.length whole
  have shortest := Decimal.length_digits_value_le nonempty digits
  simp only [List.length_map, List.length_append] at lengths
  omega

theorem is_number_text {before after : List UInt8} (number : Nat)
    (blankBefore : ∀ byte ∈ before, IsBlank byte)
    (blankAfter : ∀ byte ∈ after, IsBlank byte) :
    IsNumber (before ++ (Utf8.encode (Decimal.text number) ++ after)) number := by
  have ascii : ∀ char ∈ (Decimal.text number).toList, char.toNat < 128 :=
    fun _ member => (plain_of_mem_decimal member).ascii
  have chars : (Utf8.encode (Decimal.text number)).map asChar = Decimal.digits number :=
    (Utf8.map_encode_ascii ascii).trans (Decimal.to_list_text number)
  have digits : ∀ byte ∈ Utf8.encode (Decimal.text number), 0x30 ≤ byte ∧ byte ≤ 0x39 := by
    intro byte member
    have digit : asChar byte ∈ Decimal.digits number := by
      rw [← chars]
      exact List.mem_map_of_mem member
    exact (is_digit_as_char_iff byte).mp (Decimal.is_digit_of_mem_digits digit)
  refine ⟨before, [], _, after, blankBefore, blankAfter, Or.inl rfl, ?_, digits, ?_, rfl⟩
  · intro empty
    rw [empty] at chars
    exact Decimal.digits_ne_nil number chars.symm
  · rw [← value_map_as_char, chars, Decimal.value_digits]

theorem IsNumber.unique {bytes : List UInt8} {left right : Nat}
    (leftNumber : IsNumber bytes left) (rightNumber : IsNumber bytes right) : left = right := by
  have limit : ∃ limit, left < limit ∧ right < limit :=
    ⟨left + right + 1, by omega, by omega⟩
  obtain ⟨limit, leftBelow, rightBelow⟩ := limit
  have leftRead := (Decimal.read_trim_eq_some_iff (Nat.zero_lt_of_lt leftBelow)).mpr
    ⟨(is_number_iff.mp leftNumber).2, leftBelow⟩
  rw [(Decimal.read_trim_eq_some_iff (Nat.zero_lt_of_lt rightBelow)).mpr
    ⟨(is_number_iff.mp rightNumber).2, rightBelow⟩] at leftRead
  exact (Option.some.inj leftRead).symm

theorem IsNumber.exists_core {bytes : List UInt8} {number : Nat}
    (isNumber : IsNumber bytes number) :
    ∃ before core after : List UInt8, (∀ byte ∈ before, IsBlank byte) ∧
      (∀ byte ∈ after, IsBlank byte) ∧
        (∀ byte ∈ core, byte = 0x2B ∨ 0x30 ≤ byte ∧ byte ≤ 0x39) ∧
          (∃ digit ∈ core, 0x30 ≤ digit ∧ digit ≤ 0x39) ∧ bytes = before ++ (core ++ after) := by
  obtain ⟨before, sign, row, after, blankBefore, blankAfter, signed, nonempty, digits, -, whole⟩ :=
    isNumber
  refine ⟨before, sign ++ row, after, blankBefore, blankAfter, ?_, ?_, whole⟩
  · intro byte member
    rcases List.mem_append.mp member with plus | digit
    · rcases signed with rfl | rfl
      · cases plus
      · exact Or.inl (List.mem_singleton.mp plus)
    · exact Or.inr (digits byte digit)
  · obtain ⟨digit, rest, rfl⟩ := List.exists_cons_of_ne_nil nonempty
    exact ⟨digit, by simp, digits digit (by simp)⟩

theorem IsNumber.not_parted {left right : List UInt8} {blank : UInt8} {number : Nat}
    (isNumber : IsNumber (left ++ blank :: right) number) (between : IsBlank blank)
    (something : ∃ byte ∈ left, ¬ IsBlank byte) : ∀ byte ∈ right, IsBlank byte := by
  obtain ⟨before, core, after, blankBefore, blankAfter, clean, -, whole⟩ := isNumber.exists_core
  rcases List.append_eq_append_iff.mp whole with ⟨more, rfl, -⟩ | ⟨more, rfl, rest⟩
  · obtain ⟨byte, member, notBlank⟩ := something
    exact absurd (blankBefore byte (List.mem_append_left _ member)) notBlank
  · rcases List.append_eq_append_iff.mp rest with ⟨tail, -, rfl⟩ | ⟨tail, rfl, ends⟩
    · intro byte member
      exact blankAfter byte (by simp [member])
    · cases tail with
      | nil =>
          rw [List.nil_append] at ends
          intro byte member
          exact blankAfter byte (ends ▸ List.mem_cons_of_mem blank member)
      | cons first tail =>
          rw [List.cons_append, List.cons.injEq] at ends
          have inside := clean first (by simp)
          rw [← ends.1] at inside
          rcases between with rfl | rfl <;> exact absurd inside (by decide)

theorem IsNoDate.not_is_number {bytes : List UInt8} (noDate : IsNoDate bytes)
    {number : Nat} (below : number < 2 ^ 64) : ¬ IsNumber bytes number := by
  intro isNumber
  obtain ⟨before, core, after, blankBefore, blankAfter, clean, ⟨digit, member, isDigit⟩, whole⟩ :=
    isNumber.exists_core
  have found : digit ∈ bytes := by
    rw [whole]
    simp [member]
  have notBlank : ¬ IsBlank digit := by
    rintro (rfl | rfl) <;> exact absurd isDigit (by decide)
  cases noDate with
  | blank _ blank => exact notBlank (blank digit found)
  | loneSign left right blankLeft blankRight =>
      simp only [List.mem_append, List.mem_singleton] at found
      rcases found with inLeft | rfl | inRight
      · exact notBlank (blankLeft digit inLeft)
      · exact absurd isDigit (by decide)
      · exact notBlank (blankRight digit inRight)
  | minus _ minus =>
      rw [whole] at minus
      simp only [List.mem_append] at minus
      rcases minus with inBefore | inCore | inAfter
      · exact absurd (blankBefore _ inBefore) (by decide)
      · exact absurd (clean _ inCore) (by decide)
      · exact absurd (blankAfter _ inAfter) (by decide)
  | parted left blank right between something more =>
      obtain ⟨byte, inRight, notBlankByte⟩ := more
      exact notBlankByte (isNumber.not_parted between something byte inRight)
  | tooLarge _ large isLarge above =>
      rw [isNumber.unique isLarge] at below
      omega

end HeaderValue

open HeaderValue (IsBlank IsNumber IsNoDate)

namespace Verifier

variable {m : Type → Type} {verifier : Verifier m} {request : Request} {response : Response}

theorem request_date_eq_some_iff {date : UInt64} :
    verifier.requestDate? response = some date ↔
      ∃ bytes, response.headers.first? verifier.config.headers.requestDate = some bytes ∧
        IsNumber bytes date.toNat := by
  rw [request_date_eq_bind, Response.header, Headers.text?, Headers.first?]
  cases (response.headers.valuesOf verifier.config.headers.requestDate).head? with
  | none => simp
  | some value =>
      simp only [Option.bind_some, Option.map_some, Option.some.injEq, exists_eq_left',
        Option.bind_eq_some_iff, Option.map_eq_some_iff, HeaderValue.text_eq_some_iff,
        HeaderValue.is_number_iff, Decimal.read_trim_eq_some_iff (by decide : 0 < UInt64.size)]
      constructor
      · rintro ⟨text, ⟨readable, chars⟩, number, ⟨spells, below⟩, rfl⟩
        rw [UInt64.toNat_ofNat_of_lt' below, ← chars]
        exact ⟨readable, spells⟩
      · rintro ⟨readable, spells⟩
        refine ⟨_, ⟨readable, String.toList_ofList⟩, date.toNat, ⟨?_, date.toNat_lt⟩,
          UInt64.ofNat_toNat⟩
        rw [String.toList_ofList]
        exact spells

theorem request_date_of_is_number {bytes : List UInt8} {number : Nat}
    (first : response.headers.first? verifier.config.headers.requestDate = some bytes)
    (isNumber : IsNumber bytes number) (below : number < 2 ^ 64) :
    verifier.requestDate? response = some (.ofNat number) := by
  refine request_date_eq_some_iff.mpr ⟨bytes, first, ?_⟩
  rwa [UInt64.toNat_ofNat_of_lt' below]

/-- Parameters are rebuilt exactly for a response whose first value under the date's name is a
number that 64 bits hold, and the date is that number. Then what is signed has the date in the
shortest of its forms. The written form of every number of 64 bits is read as it whatever the blanks
around, and no parameters are rebuilt for a value that is blank, a lone sign, has a minus sign or a
blank inside, or is too large a number. -/
theorem request_date_grammar (verifier : Verifier m) (request : Request) (response : Response) :
    let first := response.headers.first? verifier.config.headers.requestDate
    ((verifier.parameters? request response).isSome = true ↔
      ∃ bytes number, first = some bytes ∧ IsNumber bytes number ∧ number < 2 ^ 64) ∧
    (∀ bytes number, first = some bytes → IsNumber bytes number → number < 2 ^ 64 →
      ∃ parameters, verifier.parameters? request response = some parameters ∧
        parameters = verifier.signedParameters request response (.ofNat number) ∧
        parameters.requestDate.toNat = number ∧
        ∀ salt, ∃ date, parameters.signedMessage salt =
            salt ++ (parameters.nonceBytes ++
              (date ++ (parameters.etagBytes ++ parameters.messageBytes))) ∧
          IsNumber date number ∧ ∀ other, IsNumber other number → date.length ≤ other.length) ∧
    (∀ (number : UInt64) (before after : List UInt8),
      (∀ byte ∈ before, IsBlank byte) → (∀ byte ∈ after, IsBlank byte) →
        first = some (before ++ (Utf8.encode (Decimal.text number.toNat) ++ after)) →
          verifier.parameters? request response =
            some (verifier.signedParameters request response number)) ∧
    ∀ bytes, first = some bytes → IsNoDate bytes →
      verifier.parameters? request response = none := by
  intro first
  refine ⟨?_, ?_, ?_, ?_⟩
  · rw [parameters_eq_map, Option.isSome_map, Option.isSome_iff_exists]
    constructor
    · rintro ⟨date, dated⟩
      obtain ⟨bytes, found, isNumber⟩ := request_date_eq_some_iff.mp dated
      exact ⟨bytes, date.toNat, found, isNumber, date.toNat_lt⟩
    · rintro ⟨bytes, number, found, isNumber, below⟩
      exact ⟨_, request_date_of_is_number found isNumber below⟩
  · intro bytes number found isNumber below
    have date : (UInt64.ofNat number).toNat = number := UInt64.toNat_ofNat_of_lt' below
    refine ⟨verifier.signedParameters request response (.ofNat number), ?_, rfl, date, ?_⟩
    · rw [parameters_eq_map, request_date_of_is_number found isNumber below, Option.map_some]
    · intro salt
      refine ⟨_, Parameters.signed_message_eq_fields _ salt, ?_, ?_⟩
      · have written : IsNumber ([] ++ (Utf8.encode (Decimal.text number) ++ [])) number :=
          HeaderValue.is_number_text number nofun nofun
        rw [List.nil_append, List.append_nil] at written
        rwa [Parameters.dateBytes, signedParameters, date]
      · intro other isOther
        rw [Parameters.length_date_bytes, signedParameters, date]
        exact isOther.length_digits_le
  · intro number before after blankBefore blankAfter found
    have read : verifier.requestDate? response = some (.ofNat number.toNat) :=
      request_date_of_is_number found
        (HeaderValue.is_number_text number.toNat blankBefore blankAfter) number.toNat_lt
    rw [parameters_eq_map, read, Option.map_some, UInt64.ofNat_toNat]
  · intro bytes found noDate
    rw [parameters_eq_map, Option.map_eq_none_iff]
    cases dated : verifier.requestDate? response with
    | none => rfl
    | some date =>
        obtain ⟨_, alsoFound, isNumber⟩ := request_date_eq_some_iff.mp dated
        cases found.symm.trans alsoFound
        exact absurd isNumber (noDate.not_is_number date.toNat_lt)

/-- A date behind a blank, a plus sign and a zero is read and signed as its shortest form; with a
blank inside it is none. -/
theorem spelled_date_is_read :
    let verifier := ofConfig ed25519 (.recording .sample) {}
    let request : Request := ⟨.get, "/v1/health", some (List.replicate 12 7)⟩
    let dateName : HeaderName :=
      ⟨⟨"x-revenuecat-request-time".toList, by decide, by decide⟩, by decide, by decide⟩
    let spelled : Response := ⟨.ok, .append .empty dateName
      ⟨[0x09, 0x2B, 0x30, 0x37, 0x20], by decide⟩, some [0x22, 0x22]⟩
    let parted : Response := ⟨.ok, .append .empty dateName
      ⟨[0x37, 0x20, 0x37], by decide⟩, some [0x22, 0x22]⟩
    (∃ parameters, verifier.parameters? request spelled = some parameters ∧
      parameters.requestDate = 7 ∧
        parameters.signedMessage [] = List.replicate 12 7 ++ [0x37] ++ [0x22, 0x22]) ∧
      verifier.parameters? request parted = none := by
  intro verifier request dateName spelled parted
  have isNumber : IsNumber [0x09, 0x2B, 0x30, 0x37, 0x20] 7 :=
    ⟨[0x09], [0x2B], [0x30, 0x37], [0x20], List.forall_mem_singleton.mpr (by decide),
      List.forall_mem_singleton.mpr (by decide), Or.inr rfl, by decide,
      List.forall_mem_cons.mpr ⟨by decide, List.forall_mem_singleton.mpr (by decide)⟩, rfl, rfl⟩
  constructor
  · obtain ⟨parameters, rebuilt, same, -, -⟩ :=
      (verifier.request_date_grammar request spelled).2.1 _ 7 (by decide) isNumber (by decide)
    refine ⟨parameters, rebuilt, by rw [same]; rfl, ?_⟩
    rw [same]
    decide
  · refine (verifier.request_date_grammar request parted).2.2.2 [0x37, 0x20, 0x37] (by decide) ?_
    exact IsNoDate.parted [0x37] 0x20 [0x37] (Or.inl rfl) ⟨0x37, by decide⟩ ⟨0x37, by decide⟩

end Verifier

end SignedResponse
