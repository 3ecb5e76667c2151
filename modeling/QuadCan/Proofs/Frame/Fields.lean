import Mathlib.Data.List.Forall2
import Mathlib.Data.Nat.Digits.Defs
import QuadCan.Proofs.Frame.Arrival

namespace QuadCan

namespace Hex

-- The digits that a line is written in.
def capitals : Bytes :=
  Utf8.ofString "0123456789ABCDEF"

-- The digits that are read, in either letter case.
def alphabet : Bytes :=
  Utf8.ofString "0123456789abcdefABCDEF"

theorem isDigit_iff_mem_alphabet {byte : UInt8} : IsDigit byte ↔ byte ∈ alphabet := by
  have hall : ∀ value < 256, ((value? (UInt8.ofNat value)).isSome = true ↔
      UInt8.ofNat value ∈ alphabet) := by
    decide +kernel
  have hbyte := hall byte.toNat byte.toNat_lt
  rw [UInt8.ofNat_toNat, Option.isSome_iff_exists] at hbyte
  simpa only [IsDigit, ← value?_eq_some_iff] using hbyte

theorem digit_mem_capitals {value : Nat} (h : value < 16) : digit value ∈ capitals := by
  have hall : ∀ value < 16, digit value ∈ capitals := by decide +kernel
  exact hall value h

theorem padded_subset_capitals (width value : Nat) : padded width value ⊆ capitals :=
  fun byte hm => forall_mem_padded (fun _ => digit_mem_capitals) width value byte hm

-- The number of a field is the sum of its digits by their places, the lowest place first.
theorem writes_reverse {digits : Bytes} {values : List Nat}
    (h : List.Forall₂ Stands digits values) : Writes digits.reverse (Nat.ofDigits 16 values) := by
  induction h with
  | nil => exact .nil
  | cons hbyte _ ih =>
    rw [List.reverse_cons, Nat.ofDigits_cons, Nat.add_comm]
    exact .snoc ih hbyte

theorem exists_values {digits : Bytes} {number : Nat} (h : Writes digits number) :
    ∃ values, List.Forall₂ Stands digits.reverse values ∧
      number = Nat.ofDigits 16 values := by
  induction h with
  | nil => exact ⟨[], .nil, rfl⟩
  | @snoc digits number value byte _ hbyte ih =>
    obtain ⟨values, hvalues, rfl⟩ := ih
    refine ⟨value :: values, ?_, ?_⟩
    · rw [List.reverse_append, List.reverse_singleton, List.singleton_append]
      exact .cons hbyte hvalues
    · rw [Nat.ofDigits_cons, Nat.add_comm]

-- A field writes the number that its digits make up, the highest place first.
theorem writes_iff {digits : Bytes} {number : Nat} :
    Writes digits number ↔
      ∃ values, List.Forall₂ Stands digits values ∧
        number = Nat.ofDigits 16 values.reverse := by
  constructor
  · intro h
    obtain ⟨values, hvalues, rfl⟩ := exists_values h
    refine ⟨values.reverse, ?_, by rw [List.reverse_reverse]⟩
    rw [← List.forall₂_reverse_iff, List.reverse_reverse]
    exact hvalues
  · rintro ⟨values, hvalues, rfl⟩
    have hwrites := writes_reverse (List.forall₂_reverse_iff.mpr hvalues)
    rwa [List.reverse_reverse] at hwrites

end Hex

namespace Frame

theorem field_eq_ok_iff {digits : Bytes} (hlength : digits.length ≤ 8) {value : UInt32} :
    field digits = .ok value ↔ Hex.Writes digits value.toNat := by
  constructor
  · intro h
    exact Hex.writes_of_field? hlength (field?_of_field h)
  · intro h
    rw [field_of_some (Hex.field?_of_writes h), UInt32.ofNat_toNat]

theorem field_eq_ok_iff_forall_mem {digits : Bytes} (hlength : digits.length ≤ 8) :
    (∃ value, field digits = .ok value) ↔ ∀ byte ∈ digits, byte ∈ Hex.alphabet := by
  simp only [field_eq_ok_iff hlength, ← Hex.isDigit_iff_mem_alphabet]
  constructor
  · rintro ⟨value, hvalue⟩
    exact Hex.field?_isSome_iff.mp (by rw [Hex.field?_of_writes hvalue]; rfl)
  · exact Hex.exists_writes hlength

-- The digits of an identifier as they stand in the line of a frame, between the letter and the
-- length code.
def idField (frame : Frame) (channel : Nat) : Bytes :=
  ((frame.encode channel).drop ((Decimal.digits channel).length + 1)).take
    (if frame.extended then 8 else 3)

-- The two digits of a byte of data. The data come last in a line, so that the place is counted
-- from its end.
def dataField (frame : Frame) (channel index : Nat) : Bytes :=
  ((frame.encode channel).drop
    ((frame.encode channel).length - 2 * (frame.data.length - index))).take 2

section

variable {frame : Frame}

theorem idField_eq (h : frame.extended = true ∨ frame.id.toNat < 0x1000) (channel : Nat) :
    frame.idField channel = Hex.padded frame.form.idDigits frame.id.toNat := by
  have hwidth : (if frame.extended then 8 else 3) = frame.form.idDigits := rfl
  have hlength := Hex.length_padded frame.form.idDigits frame.id.toNat
  rw [idField, hwidth, encode, body,
    Hex.upper_eq_padded frame.form.idDigits_pos (id_lt_pow_of_fits h), List.cons_append,
    List.drop_length_add_append, List.drop_succ_cons, List.drop_zero, List.take_left' hlength]

theorem drop_flatMap_ofByte (data : Bytes) (count : Nat) :
    (data.flatMap Hex.ofByte).drop (2 * count) = (data.drop count).flatMap Hex.ofByte := by
  induction data generalizing count with
  | nil => simp
  | cons byte data ih =>
    cases count with
    | zero => rfl
    | succ count =>
      have htwo : 2 * (count + 1) = (Hex.ofByte byte).length + 2 * count := by
        rw [Hex.ofByte, Hex.length_padded]
        omega
      rw [List.flatMap_cons, htwo, List.drop_length_add_append, ih, List.drop_succ_cons]

theorem dataField_eq (hremote : frame.remote = false) (channel : Nat) {index : Nat} {byte : UInt8}
    (hbyte : frame.data[index]? = some byte) :
    frame.dataField channel index = Hex.ofByte byte := by
  obtain ⟨front, hline⟩ :
      ∃ front, frame.encode channel = front ++ frame.data.flatMap Hex.ofByte := by
    refine ⟨Decimal.digits channel ++
      (frame.form.letter :: Hex.upper frame.form.idDigits frame.id.toNat ++
        [Hex.digit frame.lengthCode]), ?_⟩
    simp [encode, body, payload, hremote]
  obtain ⟨hindex, rfl⟩ := List.getElem?_eq_some_iff.mp hbyte
  have hplace : (frame.encode channel).length - 2 * (frame.data.length - index) =
      front.length + 2 * index := by
    rw [hline, List.length_append, length_flatMap_ofByte]
    omega
  have htwo : (Hex.ofByte frame.data[index]).length = 2 := Hex.length_padded _ _
  rw [dataField, hplace, hline, List.drop_length_add_append, drop_flatMap_ofByte,
    List.drop_eq_getElem_cons hindex, List.flatMap_cons, List.take_left' htwo]

end

-- What reading makes of a field: the number that its digits make up, or a report of the whole.
structure Reads (digits : Bytes) : Prop where
  value : ∀ value : UInt32, field digits = .ok value ↔
    ∃ values, List.Forall₂ Hex.Stands digits values ∧
      value.toNat = Nat.ofDigits 16 values.reverse
  accepts : (∃ value, field digits = .ok value) ↔ ∀ byte ∈ digits, byte ∈ Hex.alphabet
  refuses : ∀ byte ∈ digits, byte ∉ Hex.alphabet →
    field digits = .error (.invalidHex (Utf8.text digits))

-- A field in capitals of a fixed width that is read as the number it was written for.
structure Renders (width : Nat) (digits : Bytes) (number : Nat) : Prop where
  length : digits.length = width
  capitals : digits ⊆ Hex.capitals
  value : ∀ value : UInt32, field digits = .ok value ↔ value.toNat = number

theorem reads_field {digits : Bytes} (hlength : digits.length ≤ 8) : Reads digits where
  value value := by rw [field_eq_ok_iff hlength, Hex.writes_iff]
  accepts := field_eq_ok_iff_forall_mem hlength
  refuses byte hm hbyte :=
    field_of_bad fun h => hbyte (Hex.isDigit_iff_mem_alphabet.mp (h byte hm))

theorem renders_padded {width number : Nat} (hwidth : width ≤ 8) (hnumber : number < 16 ^ width) :
    Renders width (Hex.padded width number) number where
  length := Hex.length_padded width number
  capitals := Hex.padded_subset_capitals width number
  value value := by
    have hlt : number < 2 ^ 32 :=
      Nat.lt_of_lt_of_le hnumber (Nat.pow_le_pow_right (n := 16) (by decide) hwidth)
    rw [field_of_some (Hex.field?_padded hnumber), Except.ok.injEq, ← UInt32.toNat_inj,
      UInt32.toNat_ofNat', Nat.mod_eq_of_lt hlt, eq_comm]

-- Reading a field is the inverse of writing one. A field of up to eight bytes is read just when
-- they are all digits, and then as the number that they make up. The identifier of a frame with
-- room for it, and every byte of its data, is read as it was before it was written.
theorem field_inverts_encode :
    (∀ digits : Bytes, digits.length ≤ 8 → Reads digits) ∧
    (∀ (frame : Frame) (channel : Nat), frame.extended = true ∨ frame.id.toNat ≤ 0xFFF →
      Renders (if frame.extended then 8 else 3) (frame.idField channel) frame.id.toNat) ∧
    (∀ (frame : Frame) (channel index : Nat) (byte : UInt8), frame.remote = false →
      frame.data[index]? = some byte →
        Renders 2 (frame.dataField channel index) byte.toNat ∧
          octets (frame.dataField channel index) = .ok [byte]) := by
  refine ⟨fun digits => reads_field, ?_, ?_⟩
  · intro frame channel hroom
    have hfits : frame.extended = true ∨ frame.id.toNat < 0x1000 :=
      hroom.imp_right Nat.lt_succ_of_le
    rw [idField_eq hfits]
    exact renders_padded frame.form.idDigits_le (id_lt_pow_of_fits hfits)
  · intro frame channel index byte hremote hbyte
    have hlt := byte.toNat_lt
    have hone : [byte].flatMap Hex.ofByte = Hex.ofByte byte := List.flatMap_singleton _ _
    rw [dataField_eq hremote channel hbyte]
    refine ⟨renders_padded (by decide) (by omega), ?_⟩
    rw [← hone]
    exact octets_flatMap_ofByte [byte]

-- The highest identifier of either width, and a byte between others.
theorem field_inverts_encode_highest :
    Reads (Utf8.ofString "fFFFffFF") ∧
    Renders 8 ((ofExtendedData 0xFFFFFFFF []).idField 3) 0xFFFFFFFF ∧
    Renders 3 ((ofData 0xFFF []).idField 0) 0xFFF ∧
    Renders 2 ((ofData 0 [0x00, 0xFE, 0xFF]).dataField 1 1) 0xFE := by
  obtain ⟨hreads, hid, hdata⟩ := field_inverts_encode
  have hlong := hid (ofExtendedData 0xFFFFFFFF []) 3 (Or.inl rfl)
  have hshort := hid (ofData 0xFFF []) 0 (Or.inr (by decide))
  have hpair := hdata (ofData 0 [0x00, 0xFE, 0xFF]) 1 1 0xFE rfl rfl
  exact ⟨hreads _ (by decide +kernel), hlong, hshort, hpair.1⟩

-- No sign stands in front of the digits.
example : field (Utf8.ofString "+1F") = .error (.invalidHex "+1F") := by decide +kernel

end Frame

end QuadCan
