import QuadCan.Frame.Encode
import QuadCan.Frame.Parse
import QuadCan.Frame.WellFormed
import QuadCan.Text.Hex.Lemmas

namespace QuadCan.Frame

theorem length_flatMap_ofByte (data : Bytes) :
    (data.flatMap Hex.ofByte).length = 2 * data.length := by
  induction data with
  | nil => rfl
  | cons byte data ih =>
    rw [List.flatMap_cons, List.length_append, ih, Hex.ofByte, Hex.length_padded, List.length_cons]
    omega

theorem field_of_some {digits : Bytes} {value : UInt32} (h : Hex.field? digits = some value) :
    field digits = .ok value := by
  rw [field, h]

-- The pairs of digits of a payload give the payload back.
theorem octets_flatMap_ofByte (data : Bytes) : octets (data.flatMap Hex.ofByte) = .ok data := by
  induction data with
  | nil => rfl
  | cons byte data ih =>
    rw [List.flatMap_cons, Hex.ofByte_eq, List.cons_append, List.cons_append, List.nil_append,
      octets, ← Hex.ofByte_eq, field_of_some (Hex.field?_ofByte byte), ih]
    simp only [Except.map, UInt32.toNat_ofNat', Nat.reducePow]
    congr 2
    rw [← UInt8.toNat_inj]
    have := byte.toNat_lt
    simp only [UInt8.toNat_ofNat', Nat.reducePow]
    omega

theorem form_kind_eq_remote_iff {frame : Frame} (h : frame.WellFormed) :
    frame.form.kind = .remote ↔ frame.remote = true := by
  have hdata := h.data_of_fd
  obtain ⟨id, data, dlc, extended, remote, fd, brs⟩ := frame
  cases remote <;> cases fd <;> cases brs <;> simp_all [form, kind]

-- The flags of a well-formed frame are those of its form.
theorem ofForm_form {frame : Frame} (h : frame.WellFormed) :
    ofForm frame.form frame.id frame.data frame.dlc = frame := by
  have hfd := h.fd_of_brs
  have hdata := h.data_of_fd
  obtain ⟨id, data, dlc, extended, remote, fd, brs⟩ := frame
  cases fd with
  | true =>
    obtain rfl : remote = false := hdata rfl
    cases brs <;> rfl
  | false =>
    obtain rfl : brs = false := Bool.eq_false_iff.mpr fun hbrs => Bool.noConfusion (hfd hbrs)
    cases remote <;> rfl

theorem id_lt_pow {frame : Frame} (h : frame.WellFormed) :
    frame.id.toNat < 16 ^ frame.form.idDigits := by
  have hid := h.id_lt
  have hlt := frame.id.toNat_lt
  unfold Form.idDigits form
  split
  next => exact hlt
  next he => exact hid (by simpa using he)

-- A well-formed frame comes back from its line.
theorem parse_body {frame : Frame} (h : frame.WellFormed) : parse frame.body = .ok frame := by
  have hid := id_lt_pow h
  rw [body, Hex.upper_eq_padded frame.form.idDigits_pos hid, List.cons_append]
  simp only [parse, Form.ofLetter?_letter, parseForm, List.drop_left' (Hex.length_padded _ _),
    List.take_left' (Hex.length_padded _ _), field_of_some (Hex.field?_padded hid),
    UInt32.ofNat_toNat, parseLength, lengthCode, Hex.value?_digit (Length.code_lt _),
    form_kind_eq_remote_iff h]
  cases hremote : frame.remote with
  | true =>
    obtain ⟨hnil, hmem⟩ := h.request hremote
    simp only [if_true, Length.ofCode_code hmem, UInt8.ofNat_toNat]
    rw [← hnil, ofForm_form h]
  | false =>
    obtain ⟨hmem, hlength⟩ := h.carries hremote
    simp only [Bool.false_eq_true, if_false, Length.ofCode_code hmem, payload, hremote]
    rw [length_flatMap_ofByte, if_neg (by omega),
      List.take_of_length_le (Nat.le_of_eq (length_flatMap_ofByte _)), octets_flatMap_ofByte,
      ← hlength, UInt8.ofNat_toNat]
    exact congrArg Except.ok (ofForm_form h)

end QuadCan.Frame
