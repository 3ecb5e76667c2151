import QuadCan.Proofs.Frame.Line

namespace QuadCan

theorem Length.ofCode_mem {code : Nat} (h : code < 16) : Length.ofCode code ∈ Length.table := by
  have hall : ∀ code < 16, Length.ofCode code ∈ Length.table := by decide
  exact hall code h

theorem Length.toNat_ofNat {length : Nat} (h : length ∈ Length.table) :
    (UInt8.ofNat length).toNat = length := by
  have hall : ∀ length ∈ Length.table, (UInt8.ofNat length).toNat = length := by decide
  exact hall length h

namespace Frame

theorem field?_of_field {digits : Bytes} {value : UInt32} (h : field digits = .ok value) :
    Hex.field? digits = some value := by
  unfold field at h
  split at h
  next hfield => cases h; exact hfield
  next => cases h

-- Two digits make one byte of data.
theorem length_octets {bytes data : Bytes} (h : octets bytes = .ok data) :
    2 * data.length ≤ bytes.length ∧ bytes.length ≤ 2 * data.length + 1 := by
  fun_induction octets bytes generalizing data with
  | case1 high low rest value hvalue ih =>
    obtain ⟨tail, htail, rfl⟩ : ∃ tail, octets rest = .ok tail ∧
        UInt8.ofNat value.toNat :: tail = data := by
      cases hrest : octets rest with
      | ok tail => rw [hrest] at h; exact ⟨tail, rfl, Except.ok.inj h⟩
      | error cause => rw [hrest] at h; cases h
    have hlength := ih htail
    simp only [List.length_cons]
    omega
  | case2 => cases h
  | case3 bytes hshort =>
    cases h
    match bytes, hshort with
    | [], _ => simp
    | [_], _ => simp
    | high :: low :: rest, hshort => exact absurd rfl (hshort high low rest)

-- The flags of a form fit together, so that only the identifier and the length
-- of a frame of this form can be at fault.
theorem wellFormed_ofForm {form : Form} {id : UInt32} {data : Bytes} {dlc : UInt8}
    (hid : form.extended = false → id.toNat < 0x1000)
    (hrequest : form.kind = .remote → data = [] ∧ dlc.toNat ∈ Length.table)
    (hcarries : form.kind ≠ .remote →
      data.length ∈ Length.table ∧ dlc.toNat = data.length) :
    (ofForm form id data dlc).WellFormed where
  id_lt := hid
  fd_of_brs := by
    simp only [ofForm]
    cases form.kind <;> decide
  data_of_fd := by
    simp only [ofForm]
    cases form.kind <;> decide
  request := by
    intro hremote
    exact hrequest (by simpa [ofForm] using hremote)
  carries := by
    intro hremote
    exact hcarries (by simpa [ofForm] using hremote)

theorem wellFormed_of_parseLength {form : Form} {id : UInt32} {size : Nat} {byte : UInt8}
    {rest : Bytes} {frame : Frame} (hid : form.extended = false → id.toNat < 0x1000)
    (h : parseLength form id size byte rest = .ok frame) : frame.WellFormed := by
  unfold parseLength at h
  split at h
  next => cases h
  next code hcode =>
    have hmem := Length.ofCode_mem (Hex.value?_lt hcode)
    have hdlc := Length.toNat_ofNat hmem
    simp only at h
    split at h
    next hremote =>
      cases h
      exact wellFormed_ofForm hid (fun _ => ⟨rfl, by rw [hdlc]; exact hmem⟩)
        fun hne => absurd hremote hne
    next hremote =>
      split at h
      next => cases h
      next hlong =>
        cases hdata : octets (rest.take (2 * Length.ofCode code)) with
        | error cause => rw [hdata] at h; cases h
        | ok data =>
          rw [hdata] at h
          cases h
          have hlength := length_octets hdata
          rw [List.length_take] at hlength
          have hsame : data.length = Length.ofCode code := by omega
          exact wellFormed_ofForm hid (fun he => absurd he hremote)
            fun _ => ⟨hsame ▸ hmem, by rw [hdlc, hsame]⟩

-- What a line is read as can always be written.
theorem wellFormed_of_parse {line : Bytes} {frame : Frame} (h : parse line = .ok frame) :
    frame.WellFormed := by
  unfold parse at h
  split at h
  next => cases h
  next letter rest =>
    split at h
    next => cases h
    next form hform =>
      unfold parseForm at h
      split at h
      next => cases h
      next byte payload hdrop =>
        split at h
        next id hfield =>
          refine wellFormed_of_parseLength ?_ h
          intro hshort
          have hlt := congrArg List.length hdrop
          have hdigits : form.idDigits = 3 := by rw [Form.idDigits, hshort]; rfl
          simp only [List.length_drop, List.length_cons, hdigits] at hlt
          have hwidth : (rest.take form.idDigits).length = 3 := by
            rw [List.length_take, hdigits]
            omega
          have hid := Hex.field?_lt (by omega) (field?_of_field hfield)
          rw [hwidth] at hid
          exact hid
        next => cases h

theorem exists_text_of_wellFormed {frame : Frame} (h : frame.WellFormed) :
    ∃ text : String, parse (Utf8.ofString text) = .ok frame := by
  refine ⟨Utf8.text frame.body, ?_⟩
  rw [Utf8.ofString_text_of_isAscii frame.isAscii_body]
  exact parse_body h

-- The line of a frame always leads back to its channel, and to the frame itself
-- just when the frame is well-formed. A frame that is not well-formed comes from
-- no text at all, so that its line is refused or read as some other frame.
theorem parse_route_encode_iff (frame : Frame) (channel : Channel) :
    (route (frame.encode channel.val)).1 = channel ∧
    (parse (route (frame.encode channel.val)).2 = .ok frame ↔ frame.WellFormed) ∧
    ((∃ text : String, parse (Utf8.ofString text) = .ok frame) ↔ frame.WellFormed) := by
  rw [route_encode]
  refine ⟨rfl, ?_, ?_⟩
  · exact ⟨wellFormed_of_parse, parse_body⟩
  · constructor
    · rintro ⟨text, h⟩
      exact wellFormed_of_parse h
    · exact exists_text_of_wellFormed

-- The fourth digit of an identifier that is too wide is read as the length.
example : parse (ofData 0x1230 []).body = .ok (ofData 0x123 []) := by decide

end Frame

end QuadCan
