import QuadCan.Proofs.Text.Ascii

namespace QuadCan.Decimal

-- The bytes from zero to nine.
def IsDigit (byte : UInt8) : Prop :=
  '0'.toNat ≤ byte.toNat ∧ byte.toNat ≤ '9'.toNat

theorem IsDigit.isWordByte {byte : UInt8} (h : IsDigit byte) : IsWordByte byte :=
  ⟨UInt8.le_iff_toNat_le.mpr h.1, UInt8.le_iff_toNat_le.mpr (Nat.le_trans h.2 (by decide))⟩

private theorem toNat_ofNat_of_isDigit {char : Char} (h : char.isDigit = true) :
    (UInt8.ofNat char.toNat).toNat = char.toNat := by
  have hle : char.toNat ≤ 57 := (Char.isDigit_iff_toNat.mp h).2
  rw [UInt8.toNat_ofNat']
  omega

theorem isDigit_of_mem_digits {value : Nat} {byte : UInt8} (h : byte ∈ digits value) :
    IsDigit byte := by
  obtain ⟨char, hmem, rfl⟩ := List.mem_map.mp h
  have hchar : char.isDigit = true := Nat.isDigit_of_mem_toDigits (by decide) (by decide) hmem
  rw [IsDigit, toNat_ofNat_of_isDigit hchar]
  exact Char.isDigit_iff_toNat.mp hchar

-- The digits as characters again.
theorem map_ofNat_digits (value : Nat) :
    (digits value).map (fun byte => Char.ofNat byte.toNat) = Nat.toDigits 10 value := by
  rw [digits, List.map_map]
  conv => rhs; rw [← List.map_id (Nat.toDigits 10 value)]
  refine List.map_congr_left ?_
  intro char hmem
  have hchar : char.isDigit = true := Nat.isDigit_of_mem_toDigits (by decide) (by decide) hmem
  rw [Function.comp_apply, toNat_ofNat_of_isDigit hchar, Char.ofNat_toNat, id_eq]

-- The digits are the text of a number in bytes.
theorem ofString_toString (value : Nat) : Utf8.ofString (toString value) = digits value := by
  have hascii : Utf8.IsAscii (digits value) :=
    fun _ hm => (isDigit_of_mem_digits hm).isWordByte.lt
  rw [Nat.toString_eq_repr, Utf8.ofString, Nat.toList_repr, ← map_ofNat_digits,
    Utf8.encode_map_of_isAscii hascii]

-- No two numbers have the same digits.
theorem digits_injective : Function.Injective digits := by
  intro first second h
  have hchars : Nat.toDigits 10 first = Nat.toDigits 10 second := by
    rw [← map_ofNat_digits, h, map_ofNat_digits]
  calc first
    _ = Nat.ofDigitChars 10 (Nat.toDigits 10 first) 0 := Nat.ofDigitChars_ten_toDigits.symm
    _ = Nat.ofDigitChars 10 (Nat.toDigits 10 second) 0 := by rw [hchars]
    _ = second := Nat.ofDigitChars_ten_toDigits

end QuadCan.Decimal
