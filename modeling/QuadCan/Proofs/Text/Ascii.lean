import Mathlib.Data.List.Induction
import QuadCan.Text.Decimal
import QuadCan.Text.Hex.Lemmas
import QuadCan.Text.Utf8.Lemmas

namespace QuadCan

namespace Utf8

theorem ofString_append (text more : String) :
    ofString (text ++ more) = ofString text ++ ofString more := by
  rw [ofString, String.toList_append, encode, List.flatMap_append]
  rfl

-- Bytes that are characters by themselves.
def IsAscii (bytes : Bytes) : Prop :=
  ∀ byte ∈ bytes, byte < 0x80

private theorem encodeChar_of_ascii {byte : UInt8} (h : byte < 0x80) :
    String.utf8EncodeChar (Char.ofNat byte.toNat) = [byte] := by
  have hall : ∀ value < 128, String.utf8EncodeChar (Char.ofNat value) = [UInt8.ofNat value] := by
    decide +kernel
  have hbyte : byte.toNat < 128 := UInt8.lt_iff_toNat_lt.mp h
  rw [hall byte.toNat hbyte, UInt8.ofNat_toNat]

-- Text without wide characters is the same in bytes and in characters, so that
-- nothing is there to be repaired.
theorem repair_of_isAscii {bytes : Bytes} (h : IsAscii bytes) : repair bytes = bytes := by
  induction bytes with
  | nil => rw [repair, decode_nil]; rfl
  | cons byte bytes ih =>
    have hbyte := h byte (by simp)
    have hrest := ih fun other hm => h other (List.mem_cons_of_mem byte hm)
    rw [repair, decode_cons, first_of_ascii hbyte, encode, List.flatMap_cons,
      encodeChar_of_ascii hbyte]
    exact congrArg (byte :: ·) hrest

theorem ofString_text_of_isAscii {bytes : Bytes} (h : IsAscii bytes) :
    ofString (text bytes) = bytes := by
  rw [ofString, text, String.toList_ofList]
  exact repair_of_isAscii h

-- The bytes of a wide character are wide themselves.
private theorem mem_encodeChar {byte : UInt8} (hbyte : byte < 0x80) {char : Char}
    (h : byte ∈ String.utf8EncodeChar char) : byte.toNat = char.toNat := by
  have hlt : byte.toNat < 128 := UInt8.lt_iff_toNat_lt.mp hbyte
  change byte.toNat = char.val.toNat
  unfold String.utf8EncodeChar at h
  generalize char.val.toNat = value at h ⊢
  simp only at h
  split at h
  next hvalue =>
    rw [List.mem_singleton.mp h, UInt8.toNat_ofNat']
    omega
  next hvalue =>
    have hwide (part : Nat) (hpart : 128 ≤ part ∧ part < 256) : byte ≠ UInt8.ofNat part := by
      rintro rfl
      rw [UInt8.toNat_ofNat'] at hlt
      omega
    split at h
    next =>
      simp only [List.mem_cons, List.not_mem_nil, or_false] at h
      rcases h with h | h
      all_goals exact absurd h (hwide _ (by omega))
    split at h
    next =>
      simp only [List.mem_cons, List.not_mem_nil, or_false] at h
      rcases h with h | h | h
      all_goals exact absurd h (hwide _ (by omega))
    next =>
      simp only [List.mem_cons, List.not_mem_nil, or_false] at h
      rcases h with h | h | h | h
      all_goals exact absurd h (hwide _ (by omega))

-- A character without wide ones around it shows in the bytes of a text just when it is there.
theorem mem_encode_iff {byte : UInt8} (hbyte : byte < 0x80) (text : List Char) :
    byte ∈ encode text ↔ Char.ofNat byte.toNat ∈ text := by
  rw [encode, List.mem_flatMap]
  constructor
  · rintro ⟨char, hchar, hm⟩
    rw [mem_encodeChar hbyte hm, Char.ofNat_toNat]
    exact hchar
  · intro hchar
    refine ⟨_, hchar, ?_⟩
    rw [encodeChar_of_ascii hbyte]
    exact List.mem_singleton_self byte

theorem encode_cons_of_ascii {byte : UInt8} (hbyte : byte < 0x80) (text : List Char) :
    encode (Char.ofNat byte.toNat :: text) = byte :: encode text := by
  rw [encode, List.flatMap_cons, encodeChar_of_ascii hbyte]
  rfl

-- The same goes for the place in front.
theorem head?_encode_iff {byte : UInt8} (hbyte : byte < 0x80) (text : List Char) :
    (encode text).head? = some byte ↔ text.head? = some (Char.ofNat byte.toNat) := by
  cases text with
  | nil => simp [encode]
  | cons char text =>
    have hfirst : (encode (char :: text)).head? = (String.utf8EncodeChar char).head? := by
      obtain ⟨first, rest, hchar⟩ :=
        List.exists_cons_of_ne_nil (@String.utf8EncodeChar_ne_nil char)
      rw [encode, List.flatMap_cons, hchar]
      rfl
    rw [hfirst, List.head?_cons, Option.some.injEq]
    constructor
    · intro hhead
      have hbyte := mem_encodeChar hbyte (List.mem_of_mem_head? hhead)
      rw [hbyte, Char.ofNat_toNat]
    · rintro rfl
      rw [encodeChar_of_ascii hbyte, List.head?_cons]

-- Read one by one as characters, bytes without wide characters are given back.
theorem encode_map_of_isAscii {bytes : Bytes} (h : IsAscii bytes) :
    encode (bytes.map fun byte => Char.ofNat byte.toNat) = bytes := by
  induction bytes with
  | nil => rfl
  | cons byte bytes ih =>
    obtain ⟨hbyte, hrest⟩ := List.forall_mem_cons.mp h
    rw [List.map_cons, encode_cons_of_ascii hbyte, ih hrest]

end Utf8

-- The bytes from the digit zero to the small z. Letters and digits are among
-- them, and neither a control character nor a wide one is.
def IsWordByte (byte : UInt8) : Prop :=
  0x30 ≤ byte ∧ byte ≤ 0x7A

instance (byte : UInt8) : Decidable (IsWordByte byte) :=
  inferInstanceAs (Decidable (_ ∧ _))

theorem IsWordByte.lt {byte : UInt8} (h : IsWordByte byte) : byte < 0x80 := by
  have hle := UInt8.le_iff_toNat_le.mp h.2
  exact UInt8.lt_iff_toNat_lt.mpr (Nat.lt_of_le_of_lt hle (by decide))

namespace Hex

theorem isWordByte_digit {value : Nat} (h : value < 16) : IsWordByte (digit value) := by
  have hall : ∀ value < 16, IsWordByte (digit value) := by decide
  exact hall value h

-- What holds of every digit holds of all that stands in a padded number.
theorem forall_mem_padded {P : UInt8 → Prop} (h : ∀ value < 16, P (digit value))
    (width value : Nat) : ∀ byte ∈ padded width value, P byte := by
  induction width generalizing value with
  | zero => simp [padded]
  | succ width ih =>
    rw [padded, List.forall_mem_append, List.forall_mem_singleton]
    exact ⟨ih _, h _ (by omega)⟩

theorem isWordByte_of_mem_padded {width value : Nat} {byte : UInt8}
    (h : byte ∈ padded width value) : IsWordByte byte :=
  forall_mem_padded (fun _ => isWordByte_digit) width value byte h

theorem value?_lt {byte : UInt8} {value : Nat} (h : value? byte = some value) : value < 16 := by
  simp only [value?, UInt8.le_iff_toNat_le, Bool.and_eq_true, decide_eq_true_eq,
    UInt8.reduceToNat] at h
  split at h
  next => cases h; omega
  split at h
  next => cases h; omega
  split at h
  next => cases h; omega
  next => cases h

-- A field of up to eight digits is below the power that its width spans.
theorem field?_lt {digits : Bytes} {value : UInt32} (hlength : digits.length ≤ 8)
    (h : field? digits = some value) : value.toNat < 16 ^ digits.length := by
  induction digits using List.reverseRecOn generalizing value with
  | nil =>
    obtain rfl : 0 = value := by simpa [field?] using h
    decide
  | append_singleton digits byte ih =>
    rw [List.length_append, List.length_singleton] at hlength ⊢
    rw [field?_append, Option.bind_eq_some_iff] at h
    obtain ⟨total, htotal, h⟩ := h
    obtain ⟨last, hlast, rfl⟩ := Option.map_eq_some_iff.mp h
    have hl := value?_lt hlast
    have ht := ih (by omega) htotal
    have hmod := Nat.mod_le (total.toNat * 16 % 2 ^ 32 + last % 2 ^ 32) (2 ^ 32)
    have hmul := Nat.mod_le (total.toNat * 16) (2 ^ 32)
    simp only [UInt32.toNat_add, UInt32.toNat_mul, UInt32.toNat_ofNat', UInt32.reduceToNat]
    rw [Nat.pow_succ]
    omega

end Hex

theorem Decimal.digits_channel (channel : Fin 4) :
    Decimal.digits channel.val = [UInt8.ofNat (48 + channel.val)] := by
  revert channel
  decide

end QuadCan
