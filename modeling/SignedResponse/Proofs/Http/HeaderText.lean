import Mathlib.Data.List.Basic
import SignedResponse.Http.Header
import SignedResponse.Proofs.Base64
import SignedResponse.Proofs.Text.Decimal
import SignedResponse.Text.Utf8

/-!
Texts that a header value carries unchanged: ASCII without control characters but the tab.

Base64 and decimal numbers are such texts.
-/

namespace SignedResponse

namespace Utf8

theorem encode_eq_flat_map (text : String) :
    encode text = text.toList.flatMap String.utf8EncodeChar := by
  have bytes : text.toUTF8 = (text.toList.flatMap String.utf8EncodeChar).toByteArray :=
    String.utf8Encode_toList.symm
  rw [encode, bytes, List.toList_data_toByteArray]

theorem encode_ascii {text : String} (ascii : ∀ char ∈ text.toList, char.toNat < 128) :
    encode text = text.toList.map fun char => UInt8.ofNat char.toNat := by
  have single : ∀ char ∈ text.toList,
      String.utf8EncodeChar char = [UInt8.ofNat char.toNat] := by
    intro char member
    have bound : char.val.toNat ≤ 0x7F := Nat.le_of_lt_succ (ascii char member)
    exact if_pos bound
  rw [encode_eq_flat_map, List.flatMap_congr single, List.map_eq_flatMap]

theorem map_encode_ascii {text : String} (ascii : ∀ char ∈ text.toList, char.toNat < 128) :
    (encode text).map (fun byte => Char.ofNat byte.toNat) = text.toList := by
  rw [encode_ascii ascii, List.map_map]
  conv_rhs => rw [← List.map_id text.toList]
  apply List.map_congr_left
  intro char member
  have bound : char.toNat < 256 := Nat.lt_trans (ascii char member) (by decide)
  simp only [Function.comp_apply, Base64.to_nat_of_nat bound, Char.ofNat_toNat, id]

theorem exists_high_byte {char : Char} (high : 128 ≤ char.toNat) :
    ∃ byte ∈ String.utf8EncodeChar char, 128 ≤ byte.toNat := by
  have bound : 128 ≤ char.val.toNat := high
  unfold String.utf8EncodeChar
  simp only []
  split_ifs
  · omega
  all_goals
    refine ⟨_, List.mem_cons_self, ?_⟩
    rw [UInt8.toNat_ofNat']
    omega

end Utf8

theorem HeaderValue.is_readable_iff (byte : UInt8) :
    isReadable byte = true ↔ byte.toNat = 9 ∨ 0x20 ≤ byte.toNat ∧ byte.toNat < 0x7F := by
  simp [isReadable, tab, ← UInt8.toNat_inj, UInt8.le_iff_toNat_le, UInt8.lt_iff_toNat_lt]

/-- A header value carries this character as it is. -/
def IsPlain (char : Char) : Prop := char.toNat = 9 ∨ 0x20 ≤ char.toNat ∧ char.toNat < 0x7F

instance (char : Char) : Decidable (IsPlain char) := inferInstanceAs (Decidable (_ ∨ _))

def IsPlainText (text : String) : Prop := ∀ char ∈ text.toList, IsPlain char

instance (text : String) : Decidable (IsPlainText text) := List.decidableBAll _ _

theorem IsPlain.ascii {char : Char} (plain : IsPlain char) : char.toNat < 128 := by
  rcases plain with tab | ⟨_, high⟩ <;> omega

theorem IsPlain.readable {char : Char} (plain : IsPlain char) :
    HeaderValue.isReadable (UInt8.ofNat char.toNat) = true := by
  have bound : char.toNat < 256 := Nat.lt_trans plain.ascii (by decide)
  rw [HeaderValue.is_readable_iff, Base64.to_nat_of_nat bound]
  exact plain

theorem IsPlain.all_readable {text : String} (plain : ∀ char ∈ text.toList, IsPlain char) :
    (Utf8.encode text).all HeaderValue.isReadable = true := by
  rw [Utf8.encode_ascii fun char member => (plain char member).ascii, List.all_eq_true]
  intro byte member
  obtain ⟨char, found, rfl⟩ := List.mem_map.mp member
  exact (plain char found).readable

theorem IsPlain.of_all_readable {text : String}
    (readable : (Utf8.encode text).all HeaderValue.isReadable = true) {char : Char}
    (member : char ∈ text.toList) : IsPlain char := by
  have bytes : ∀ byte ∈ String.utf8EncodeChar char, HeaderValue.isReadable byte = true := by
    intro byte found
    apply List.all_eq_true.mp readable
    rw [Utf8.encode_eq_flat_map]
    exact List.mem_flatMap.mpr ⟨char, member, found⟩
  by_cases ascii : char.toNat < 128
  · have bound : char.val.toNat ≤ 0x7F := Nat.le_of_lt_succ ascii
    have single : String.utf8EncodeChar char = [UInt8.ofNat char.toNat] := if_pos bound
    have read := bytes (UInt8.ofNat char.toNat) (by rw [single]; exact List.mem_cons_self)
    rwa [HeaderValue.is_readable_iff, Base64.to_nat_of_nat (by omega)] at read
  · obtain ⟨byte, found, high⟩ := Utf8.exists_high_byte (Nat.le_of_not_lt ascii)
    have read := (HeaderValue.is_readable_iff byte).mp (bytes byte found)
    omega

theorem plain_of_mem_base64 {bytes : List UInt8} {char : Char}
    (member : char ∈ (Base64.encodeText bytes).toList) : IsPlain char := by
  have table : ∀ value < 64, IsPlain (Base64.symbol value) := by decide
  rw [Base64.encodeText, String.toList_ofList] at member
  rcases Base64.mem_encode member with rfl | ⟨value, bound, rfl⟩
  · decide
  · exact table value bound

theorem plain_of_mem_decimal {number : Nat} {char : Char}
    (member : char ∈ (Decimal.text number).toList) : IsPlain char := by
  rw [Decimal.to_list_text] at member
  have digit := Char.isDigit_iff_toNat.mp (Decimal.is_digit_of_mem_digits member)
  have low : 48 ≤ char.toNat := digit.1
  have high : char.toNat ≤ 57 := digit.2
  exact Or.inr ⟨by omega, by omega⟩

namespace HeaderValue

theorem is_legal_of_is_readable {byte : UInt8} (readable : isReadable byte = true) :
    isLegal byte = true := by
  simp only [isReadable, isLegal, Bool.or_eq_true, Bool.and_eq_true, decide_eq_true_eq]
    at readable ⊢
  rcases readable with tab | ⟨low, high⟩
  · exact Or.inl tab
  · refine Or.inr ⟨low, bne_iff_ne.mpr ?_⟩
    rintro rfl
    exact absurd high (by decide)

theorem of_bytes_of_plain {text : String} (plain : ∀ char ∈ text.toList, IsPlain char) :
    ∃ value, ofBytes (Utf8.encode text) = .ok value ∧ value.bytes = Utf8.encode text := by
  have legal : (Utf8.encode text).all isLegal = true := by
    rw [List.all_eq_true]
    intro byte member
    exact is_legal_of_is_readable (List.all_eq_true.mp (IsPlain.all_readable plain) byte member)
  exact ⟨⟨_, legal⟩, dif_pos legal, rfl⟩

theorem text_of_plain {value : HeaderValue} {text : String}
    (plain : ∀ char ∈ text.toList, IsPlain char) (same : value.bytes = Utf8.encode text) :
    value.text? = some text := by
  have chars := Utf8.map_encode_ascii fun char member => (plain char member).ascii
  rw [text?, same, if_pos (IsPlain.all_readable plain), chars, String.ofList_toList]

/-- A value that is a text reads as that text if all of it is plain, and else not at all. -/
theorem text_of_encoded {value : HeaderValue} {text : String}
    (same : value.bytes = Utf8.encode text) :
    value.text? = if IsPlainText text then some text else none := by
  split_ifs with plain
  · exact text_of_plain plain same
  · rw [text?, same]
    exact if_neg fun readable => plain fun _ member => IsPlain.of_all_readable readable member

end HeaderValue

namespace Headers

def first? (headers : Headers) (name : String) : Option (List UInt8) :=
  (headers.valuesOf name).head?.map HeaderValue.bytes

theorem text_of_plain {headers : Headers} {name text : String}
    (plain : ∀ char ∈ text.toList, IsPlain char)
    (first : headers.first? name = some (Utf8.encode text)) : headers.text? name = some text := by
  obtain ⟨value, found, same⟩ := Option.map_eq_some_iff.mp first
  rw [text?, found]
  exact HeaderValue.text_of_plain plain same

theorem text_of_none {headers : Headers} {name : String}
    (first : headers.first? name = none) : headers.text? name = none := by
  rw [text?, Option.map_eq_none_iff.mp first]
  rfl

end Headers

end SignedResponse
