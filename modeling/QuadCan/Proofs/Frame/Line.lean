import QuadCan.Frame.Lemmas
import QuadCan.Line.Route
import QuadCan.Proofs.Text.Ascii

namespace QuadCan

theorem Channel.ofDigit?_digit (channel : Channel) :
    Channel.ofDigit? (UInt8.ofNat (48 + channel.val)) = some channel := by
  revert channel
  decide

theorem Form.isWordByte_letter (form : Form) : IsWordByte form.letter := by
  obtain ⟨kind, extended⟩ := form
  cases kind <;> cases extended <;> decide

namespace Frame

-- Every frame, well-formed or not, is written in letters and digits.
theorem isWordByte_of_mem_body {frame : Frame} {byte : UInt8} (h : byte ∈ frame.body) :
    IsWordByte byte := by
  rw [body, List.cons_append, List.mem_cons, List.mem_append, List.mem_cons] at h
  rcases h with rfl | h | rfl | h
  · exact frame.form.isWordByte_letter
  · exact Hex.isWordByte_of_mem_padded h
  · exact Hex.isWordByte_digit (Length.code_lt _)
  · unfold payload at h
    split at h
    next => simp at h
    next =>
      obtain ⟨octet, -, hbyte⟩ := List.mem_flatMap.mp h
      exact Hex.isWordByte_of_mem_padded hbyte

theorem encode_channel (frame : Frame) (channel : Channel) :
    frame.encode channel.val = UInt8.ofNat (48 + channel.val) :: frame.body := by
  rw [encode, Decimal.digits_channel, List.cons_append, List.nil_append]

theorem isWordByte_of_mem_encode {frame : Frame} {channel : Channel} {byte : UInt8}
    (h : byte ∈ frame.encode channel.val) : IsWordByte byte := by
  rw [encode_channel, List.mem_cons] at h
  rcases h with rfl | h
  · revert channel
    decide
  · exact isWordByte_of_mem_body h

-- A line leads back to its channel and leaves the rest as it was written.
theorem route_encode (frame : Frame) (channel : Channel) :
    route (frame.encode channel.val) = (channel, frame.body) := by
  rw [encode_channel, route, Channel.ofDigit?_digit]

theorem isAscii_body (frame : Frame) : Utf8.IsAscii frame.body :=
  fun _ h => (isWordByte_of_mem_body h).lt

theorem isAscii_encode (frame : Frame) (channel : Channel) :
    Utf8.IsAscii (frame.encode channel.val) :=
  fun _ h => (isWordByte_of_mem_encode h).lt

theorem length_payload_le {frame : Frame} (h : frame.WellFormed) :
    frame.payload.length ≤ 128 := by
  unfold payload
  split
  next => decide
  next hremote =>
    have hmem := (h.carries (Bool.eq_false_iff.mpr hremote)).1
    have hall : ∀ length ∈ Length.table, length ≤ 64 := by decide
    have hle := hall _ hmem
    rw [length_flatMap_ofByte]
    omega

-- The longest line is that of a frame in the flexible format with all its data.
theorem length_encode_le {frame : Frame} (h : frame.WellFormed) (channel : Channel) :
    (frame.encode channel.val).length ≤ 139 := by
  have hpayload := length_payload_le h
  have hdigits := frame.form.idDigits_le
  rw [encode_channel, body, Hex.upper_eq_padded frame.form.idDigits_pos (id_lt_pow h)]
  simp only [List.length_cons, List.length_append, Hex.length_padded]
  omega

end Frame

end QuadCan
