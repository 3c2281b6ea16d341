import Mathlib.Tactic.Common
import SignedResponse.Base64

/-!
Reading base64 accepts exactly what writing it produces.

So a byte string has one written form, and two texts never stand for the same bytes.
-/

namespace SignedResponse.Base64

theorem value_symbol {value : Nat} (bound : value < 64) : value? (symbol value) = some value := by
  revert value bound
  decide

theorem symbol_ne_pad {value : Nat} (bound : value < 64) : symbol value ≠ '=' := by
  intro same
  have read := value_symbol bound
  have unread : value? '=' = none := by decide
  rw [same, unread] at read
  cases read

theorem symbol_of_value {char : Char} {value : Nat} (read : value? char = some value) :
    value < 64 ∧ symbol value = char := by
  unfold value? at read
  split_ifs at read with upper lower digit plus slash <;> cases read
  · refine ⟨by omega, ?_⟩
    rw [symbol, if_pos (by omega), show 65 + (char.toNat - 65) = char.toNat by omega]
    exact Char.ofNat_toNat char
  · refine ⟨by omega, ?_⟩
    rw [symbol, if_neg (by omega), if_pos (by omega),
      show 71 + (char.toNat - 71) = char.toNat by omega]
    exact Char.ofNat_toNat char
  · refine ⟨by omega, ?_⟩
    rw [symbol, if_neg (by omega), if_neg (by omega), if_pos (by omega),
      show char.toNat + 4 - 4 = char.toNat by omega]
    exact Char.ofNat_toNat char
  · exact ⟨by omega, plus.symm⟩
  · exact ⟨by omega, slash.symm⟩

theorem decode_group (a b c : UInt8) :
    decodeGroup (symbol (a.toNat / 4)) (symbol (a.toNat % 4 * 16 + b.toNat / 16))
      (symbol (b.toNat % 16 * 4 + c.toNat / 64)) (symbol (c.toNat % 64)) = some [a, b, c] := by
  have boundA := a.toNat_lt
  have boundB := b.toNat_lt
  have boundC := c.toNat_lt
  simp only [decodeGroup, value_symbol (show a.toNat / 4 < 64 by omega),
    value_symbol (show a.toNat % 4 * 16 + b.toNat / 16 < 64 by omega),
    value_symbol (show b.toNat % 16 * 4 + c.toNat / 64 < 64 by omega),
    value_symbol (show c.toNat % 64 < 64 by omega)]
  have first : a.toNat / 4 * 4 + (a.toNat % 4 * 16 + b.toNat / 16) / 16 = a.toNat := by omega
  have second : (a.toNat % 4 * 16 + b.toNat / 16) % 16 * 16 +
      (b.toNat % 16 * 4 + c.toNat / 64) / 4 = b.toNat := by omega
  have third : (b.toNat % 16 * 4 + c.toNat / 64) % 4 * 64 + c.toNat % 64 = c.toNat := by omega
  rw [first, second, third, UInt8.ofNat_toNat, UInt8.ofNat_toNat, UInt8.ofNat_toNat]

theorem decode_last_one (a : UInt8) :
    decodeLast (symbol (a.toNat / 4)) (symbol (a.toNat % 4 * 16)) '=' = some [a] := by
  have bound := a.toNat_lt
  simp only [decodeLast, value_symbol (show a.toNat / 4 < 64 by omega),
    value_symbol (show a.toNat % 4 * 16 < 64 by omega), if_true]
  rw [if_pos (by omega), show a.toNat / 4 * 4 + a.toNat % 4 * 16 / 16 = a.toNat by omega,
    UInt8.ofNat_toNat]

theorem decode_last_two (a b : UInt8) :
    decodeLast (symbol (a.toNat / 4)) (symbol (a.toNat % 4 * 16 + b.toNat / 16))
      (symbol (b.toNat % 16 * 4)) = some [a, b] := by
  have boundA := a.toNat_lt
  have boundB := b.toNat_lt
  simp only [decodeLast, value_symbol (show a.toNat / 4 < 64 by omega),
    value_symbol (show a.toNat % 4 * 16 + b.toNat / 16 < 64 by omega),
    value_symbol (show b.toNat % 16 * 4 < 64 by omega),
    symbol_ne_pad (show b.toNat % 16 * 4 < 64 by omega), if_false]
  have first : a.toNat / 4 * 4 + (a.toNat % 4 * 16 + b.toNat / 16) / 16 = a.toNat := by omega
  have second : (a.toNat % 4 * 16 + b.toNat / 16) % 16 * 16 + b.toNat % 16 * 4 / 4 = b.toNat := by
    omega
  rw [if_pos (by omega), first, second, UInt8.ofNat_toNat, UInt8.ofNat_toNat]

theorem decode_encode (bytes : List UInt8) : decode (encode bytes) = some bytes := by
  fun_induction encode bytes with
  | case1 => rfl
  | case2 a => simp only [decode, if_true, decode_last_one]
  | case3 a b => simp only [decode, if_true, decode_last_two]
  | case4 a b c rest induction =>
      have notPad : symbol (c.toNat % 64) ≠ '=' := symbol_ne_pad (by omega)
      simp only [decode, notPad, if_false, decode_group, induction, List.cons_append,
        List.nil_append]

theorem mem_encode {bytes : List UInt8} {char : Char} (member : char ∈ encode bytes) :
    char = '=' ∨ ∃ value < 64, char = symbol value := by
  fun_induction encode bytes with
  | case1 => cases member
  | case2 a =>
      have bound := a.toNat_lt
      simp only [List.mem_cons, List.not_mem_nil, or_false] at member
      rcases member with rfl | rfl | rfl | rfl
      · exact Or.inr ⟨_, by omega, rfl⟩
      · exact Or.inr ⟨_, by omega, rfl⟩
      · exact Or.inl rfl
      · exact Or.inl rfl
  | case3 a b =>
      have boundA := a.toNat_lt
      have boundB := b.toNat_lt
      simp only [List.mem_cons, List.not_mem_nil, or_false] at member
      rcases member with rfl | rfl | rfl | rfl
      · exact Or.inr ⟨_, by omega, rfl⟩
      · exact Or.inr ⟨_, by omega, rfl⟩
      · exact Or.inr ⟨_, by omega, rfl⟩
      · exact Or.inl rfl
  | case4 a b c rest induction =>
      have boundA := a.toNat_lt
      have boundB := b.toNat_lt
      have boundC := c.toNat_lt
      simp only [List.mem_cons] at member
      rcases member with rfl | rfl | rfl | rfl | later
      · exact Or.inr ⟨_, by omega, rfl⟩
      · exact Or.inr ⟨_, by omega, rfl⟩
      · exact Or.inr ⟨_, by omega, rfl⟩
      · exact Or.inr ⟨_, by omega, rfl⟩
      · exact induction later

theorem to_nat_of_nat {number : Nat} (bound : number < 256) : (UInt8.ofNat number).toNat = number :=
  UInt8.toNat_ofNat_of_lt' bound

theorem encode_of_decode_last {p q r : Char} {bytes : List UInt8}
    (read : decodeLast p q r = some bytes) : encode bytes = [p, q, r, '='] := by
  unfold decodeLast at read
  split at read
  · rename_i v w readP readQ
    obtain ⟨boundV, rfl⟩ := symbol_of_value readP
    obtain ⟨boundW, rfl⟩ := symbol_of_value readQ
    -- The bits that are left over were found to be zero, so writing puts the same symbol there.
    split_ifs at read with pad zeros
    · cases read
      have high : (UInt8.ofNat (v * 4 + w / 16)).toNat = v * 4 + w / 16 :=
        to_nat_of_nat (by omega)
      rw [encode, high, pad, show (v * 4 + w / 16) / 4 = v by omega,
        show (v * 4 + w / 16) % 4 * 16 = w by omega]
    · split at read
      · rename_i x readR
        obtain ⟨boundX, rfl⟩ := symbol_of_value readR
        split_ifs at read with zeros
        cases read
        have high : (UInt8.ofNat (v * 4 + w / 16)).toNat = v * 4 + w / 16 :=
          to_nat_of_nat (by omega)
        have low : (UInt8.ofNat (w % 16 * 16 + x / 4)).toNat = w % 16 * 16 + x / 4 :=
          to_nat_of_nat (by omega)
        rw [encode, high, low, show (v * 4 + w / 16) / 4 = v by omega,
          show (v * 4 + w / 16) % 4 * 16 + (w % 16 * 16 + x / 4) / 16 = w by omega,
          show (w % 16 * 16 + x / 4) % 16 * 4 = x by omega]
      · cases read
  · cases read

theorem encode_of_decode_group {p q r s : Char} {bytes : List UInt8} (rest : List UInt8)
    (read : decodeGroup p q r s = some bytes) :
    encode (bytes ++ rest) = p :: q :: r :: s :: encode rest := by
  unfold decodeGroup at read
  split at read
  · rename_i v w x y readP readQ readR readS
    obtain ⟨boundV, rfl⟩ := symbol_of_value readP
    obtain ⟨boundW, rfl⟩ := symbol_of_value readQ
    obtain ⟨boundX, rfl⟩ := symbol_of_value readR
    obtain ⟨boundY, rfl⟩ := symbol_of_value readS
    cases read
    have first : (UInt8.ofNat (v * 4 + w / 16)).toNat = v * 4 + w / 16 :=
      to_nat_of_nat (by omega)
    have second : (UInt8.ofNat (w % 16 * 16 + x / 4)).toNat = w % 16 * 16 + x / 4 :=
      to_nat_of_nat (by omega)
    have third : (UInt8.ofNat (x % 4 * 64 + y)).toNat = x % 4 * 64 + y :=
      to_nat_of_nat (by omega)
    simp only [List.cons_append, List.nil_append, encode, first, second, third]
    rw [show (v * 4 + w / 16) / 4 = v by omega,
      show (v * 4 + w / 16) % 4 * 16 + (w % 16 * 16 + x / 4) / 16 = w by omega,
      show (w % 16 * 16 + x / 4) % 16 * 4 + (x % 4 * 64 + y) / 64 = x by omega,
      show (x % 4 * 64 + y) % 64 = y by omega]
  · cases read

theorem eq_encode_of_decode {chars : List Char} {bytes : List UInt8}
    (read : decode chars = some bytes) : chars = encode bytes := by
  fun_induction decode chars generalizing bytes with
  | case1 =>
      cases read
      rfl
  | case2 p q r => exact (encode_of_decode_last read).symm
  | case3 => cases read
  | case4 p q r s rest notPad group others readRest readGroup induction =>
      cases read
      rw [encode_of_decode_group others readGroup, ← induction readRest]
  | case5 => cases read
  | case6 => cases read

/-- A byte string has one written form, and nothing else is read as it. -/
theorem decode_eq_some_iff {chars : List Char} {bytes : List UInt8} :
    decode chars = some bytes ↔ chars = encode bytes :=
  ⟨eq_encode_of_decode, fun same => same ▸ decode_encode bytes⟩

theorem decode_text_eq_some_iff {text : String} {bytes : List UInt8} :
    decodeText text = some bytes ↔ text = encodeText bytes := by
  rw [decodeText, decode_eq_some_iff, encodeText]
  constructor
  · intro same
    rw [← same, String.ofList_toList]
  · intro same
    rw [same, String.toList_ofList]

end SignedResponse.Base64
