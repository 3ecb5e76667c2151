import QuadCan.Proofs.Frame.Grammar

namespace QuadCan

namespace Hex

-- The upper-case form of a digit. Every other byte stays as it is.
def raise (byte : UInt8) : UInt8 :=
  if 'a'.toNat ≤ byte.toNat ∧ byte.toNat ≤ 'f'.toNat then
    UInt8.ofNat ('A'.toNat + (byte.toNat - 'a'.toNat))
  else byte

theorem digit_of_stands {byte : UInt8} {value : Nat} (h : Stands byte value) :
    digit value = raise byte := by
  have hzero : '0'.toNat = 48 := rfl
  have hupper : 'A'.toNat = 65 := rfl
  have hlower : 'a'.toNat = 97 := rfl
  have hlast : 'f'.toNat = 102 := rfl
  have hlt := byte.toNat_lt
  rw [← UInt8.toNat_inj]
  simp only [Stands, digit, raise, hzero, hupper, hlower, hlast] at h ⊢
  split
  · split
    · simp only [UInt8.toNat_ofNat']; omega
    · simp only [UInt8.toNat_ofNat']; omega
  · split
    · simp only [UInt8.toNat_ofNat']; omega
    · simp only [UInt8.toNat_ofNat']; omega

-- A number that was read from digits is written in the same digits, in upper case.
theorem padded_of_writes {digits : Bytes} {number : Nat} (h : Writes digits number) :
    padded digits.length number = digits.map raise := by
  induction h with
  | nil => rfl
  | @snoc digits number value byte _ hbyte ih =>
    have hvalue := value?_lt (value?_eq_some_iff.mpr hbyte)
    have hdiv : (16 * number + value) / 16 = number := by omega
    have hmod : (16 * number + value) % 16 = value := by omega
    rw [List.length_append, List.length_singleton, padded, hdiv, hmod, ih, digit_of_stands hbyte,
      List.map_append, List.map_singleton]

theorem flatMap_ofByte_of_writesAll {digits data : Bytes} (h : WritesAll digits data) :
    data.flatMap ofByte = digits.map raise := by
  induction h with
  | nil => rfl
  | @cons high low byte digits data hbyte _ ih =>
    have hpair : ofByte byte = [high, low].map raise := padded_of_writes hbyte
    rw [List.flatMap_cons, hpair, ih]
    rfl

theorem WritesAll.length_eq {digits data : Bytes} (h : WritesAll digits data) :
    digits.length = 2 * data.length := by
  induction h with
  | nil => rfl
  | cons _ _ ih =>
    simp only [List.length_cons, ih]
    omega

end Hex

theorem Length.code_of_getElem? {value length : Nat} (h : table[value]? = some length) :
    code length = value := by
  have hall : ∀ value < 16, ∀ length ∈ table[value]?, code length = value := by decide
  have hvalue : value < table.length := (List.getElem?_eq_some_iff.mp h).1
  exact hall value hvalue length h

namespace Frame

-- The number of bytes that a frame takes up in a line without a channel.
def extent (frame : Frame) : Nat :=
  1 + (if frame.extended then 8 else 3) + 1 + if frame.remote then 0 else 2 * frame.dlc.toNat

theorem form_ofForm (form : Form) (id : UInt32) (data : Bytes) (dlc : UInt8) :
    (ofForm form id data dlc).form = form := by
  obtain ⟨kind, extended⟩ := form
  cases kind <;> rfl

section

variable {parts : Parts} {frame : Frame}

theorem form_of_spells (h : parts.Spells frame) : frame.form = parts.form := by
  rw [← ofForm_of_spells h, form_ofForm]

theorem length_front (h : parts.Spells frame) : parts.front.length = frame.extent := by
  have hpayload : parts.payload.length = if frame.remote then 0 else 2 * frame.dlc.toNat := by
    split
    next hremote => rw [(h.request (h.remote.mp hremote)).1, List.length_nil]
    next hremote => exact (h.carries (mt h.remote.mpr hremote)).1
  rw [Parts.front, List.length_cons, List.length_append, List.length_cons, h.width, hpayload,
    extent, h.extended]
  omega

theorem digit_lengthCode (h : parts.Spells frame) :
    Hex.digit frame.lengthCode = Hex.raise parts.code := by
  obtain ⟨value, hcode, hlength⟩ := h.code
  have hcount : (if frame.remote then frame.dlc.toNat else frame.data.length) =
      frame.dlc.toNat := by
    split
    next => rfl
    next hremote =>
      obtain ⟨hpayload, hdata⟩ := h.carries (mt h.remote.mpr hremote)
      have hlength := hdata.length_eq
      omega
  rw [lengthCode, hcount, Length.code_of_getElem? hlength, Hex.digit_of_stands hcode]

theorem payload_of_spells (h : parts.Spells frame) :
    frame.payload = parts.payload.map Hex.raise := by
  unfold payload
  split
  next hremote =>
    rw [(h.request (h.remote.mp hremote)).1]
    rfl
  next hremote =>
    exact Hex.flatMap_ofByte_of_writesAll (h.carries (mt h.remote.mpr hremote)).2

theorem body_of_spells (h : parts.Spells frame) :
    frame.body = parts.form.letter :: parts.front.tail.map Hex.raise := by
  have hid : Hex.upper parts.form.idDigits frame.id.toNat = parts.id.map Hex.raise := by
    have hwidth : parts.id.length = parts.form.idDigits := h.width
    rw [← hwidth, Hex.upper_eq_padded (hwidth ▸ parts.form.idDigits_pos) h.id.lt,
      Hex.padded_of_writes h.id]
  rw [body, form_of_spells h, hid, digit_lengthCode h, payload_of_spells h, Parts.front,
    List.tail_cons, List.map_append, List.map_cons, List.cons_append]

end

-- What was read is written back in upper case and without what was ignored: the letter stays as
-- it is, and so does the width of every field.
theorem encode_of_parse {text : String} {frame : Frame}
    (h : parse (Utf8.ofString text) = .ok frame) (channel : Nat) :
    frame.extent ≤ (Utf8.ofString text).length ∧
    frame.encode channel = Decimal.digits channel ++ ((Utf8.ofString text).take 1 ++
      (((Utf8.ofString text).take frame.extent).drop 1).map Hex.raise) ∧
    parse ((frame.encode channel).drop (Decimal.digits channel).length) = .ok frame := by
  obtain ⟨parts, hline, hspells⟩ := exists_parts_of_parse h
  have hextent := length_front hspells
  rw [← hline, Parts.line_eq, List.take_left' hextent]
  refine ⟨?_, ?_, ?_⟩
  · rw [List.length_append, hextent]
    exact Nat.le_add_right _ _
  · rw [encode, body_of_spells hspells]
    rfl
  · rw [encode, List.drop_left]
    exact parse_body (wellFormed_of_parse h)

-- A line in mixed case, with a blank and a wide character after its payload.
theorem encode_of_parse_mixed :
    let text := "Dabcdef012aBcD é"
    let frame : Frame :=
      { id := 0xABCDEF01, data := [0xAB, 0xCD], dlc := 2, extended := true, fd := true }
    parse (Utf8.ofString text) = .ok frame ∧
      frame.encode 12 = Utf8.ofString "12DABCDEF012ABCD" := by
  intro text frame
  have hparse : parse (Utf8.ofString text) = .ok frame := by decide
  obtain ⟨-, hencode, -⟩ := encode_of_parse hparse 12
  refine ⟨hparse, hencode.trans ?_⟩
  decide

end Frame

end QuadCan
