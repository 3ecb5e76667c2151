import QuadCan.Proofs.Frame.Offsets
import QuadCan.Proofs.Frame.RoundTrip
import QuadCan.Proofs.Text.Numeral

namespace QuadCan

-- Bytes in pairs of digits.
inductive Hex.WritesAll : Bytes → Bytes → Prop where
  | nil : WritesAll [] []
  | cons {high low byte : UInt8} {digits data : Bytes} (hbyte : Writes [high, low] byte.toNat)
      (hdigits : WritesAll digits data) : WritesAll (high :: low :: digits) (byte :: data)

namespace Frame

-- The parts of a line, in order. Whatever stands after the payload says nothing.
structure Parts where
  form : Form
  id : Bytes
  code : UInt8
  payload : Bytes
  rest : Bytes

def Parts.line (parts : Parts) : Bytes :=
  parts.form.letter :: (parts.id ++ parts.code :: (parts.payload ++ parts.rest))

-- The frame that the parts of a line spell. The letter says what the frame is, the
-- code how long it is, and the payload of a remote frame is empty.
structure Parts.Spells (parts : Parts) (frame : Frame) : Prop where
  width : parts.id.length = if parts.form.extended then 8 else 3
  id : Hex.Writes parts.id frame.id.toNat
  code : ∃ value, Hex.Stands parts.code value ∧ Length.table[value]? = some frame.dlc.toNat
  request : parts.form.kind = .remote → parts.payload = [] ∧ frame.data = []
  carries : parts.form.kind ≠ .remote →
    parts.payload.length = 2 * frame.dlc.toNat ∧ Hex.WritesAll parts.payload frame.data
  extended : frame.extended = parts.form.extended
  remote : frame.remote = true ↔ parts.form.kind = .remote
  fd : frame.fd = true ↔ parts.form.kind = .flexible ∨ parts.form.kind = .switched
  brs : frame.brs = true ↔ parts.form.kind = .switched

-- The rule that a text breaks first, and how that is reported. Each case says of the
-- rules before it that they are kept.
inductive Breaks (text : String) : DecodeError → Prop where
  | empty (hline : Utf8.ofString text = []) : Breaks text .empty
  | letter {char : Char} {chars : List Char} (htext : text.toList = char :: chars)
      (hletter : ∀ form : Form, (Utf8.ofString text).head? ≠ some form.letter) :
      Breaks text (.notAFrame char)
  | head {form : Form} {rest : Bytes} (hline : Utf8.ofString text = form.letter :: rest)
      (hshort : (Utf8.ofString text).length < 1 + form.idDigits + 1) :
      Breaks text (.tooShort (1 + form.idDigits + 1) (Utf8.ofString text).length)
  | id {form : Form} {id rest : Bytes} {code : UInt8}
      (hline : Utf8.ofString text = form.letter :: (id ++ code :: rest))
      (hwidth : id.length = form.idDigits) (hid : ¬ ∀ byte ∈ id, Hex.IsDigit byte) :
      Breaks text (.invalidHex (Utf8.text id))
  | code {form : Form} {id rest : Bytes} {code : UInt8}
      (hline : Utf8.ofString text = form.letter :: (id ++ code :: rest))
      (hwidth : id.length = form.idDigits) (hid : ∀ byte ∈ id, Hex.IsDigit byte)
      (hcode : ¬ Hex.IsDigit code) :
      Breaks text (.invalidLengthCode (Char.ofNat code.toNat))
  | payload {form : Form} {id rest : Bytes} {code : UInt8} {value length : Nat}
      (hline : Utf8.ofString text = form.letter :: (id ++ code :: rest))
      (hwidth : id.length = form.idDigits) (hid : ∀ byte ∈ id, Hex.IsDigit byte)
      (hcode : Hex.Stands code value) (hlength : Length.table[value]? = some length)
      (hkind : form.kind ≠ .remote)
      (hshort : (Utf8.ofString text).length < 2 + form.idDigits + 2 * length) :
      Breaks text (.tooShort (2 + form.idDigits + 2 * length) (Utf8.ofString text).length)
  | pair {form : Form} {id good data rest : Bytes} {code high low : UInt8} {value length : Nat}
      (hline : Utf8.ofString text = form.letter :: (id ++ code :: (good ++ high :: low :: rest)))
      (hwidth : id.length = form.idDigits) (hid : ∀ byte ∈ id, Hex.IsDigit byte)
      (hcode : Hex.Stands code value) (hlength : Length.table[value]? = some length)
      (hkind : form.kind ≠ .remote)
      (hlong : 2 + form.idDigits + 2 * length ≤ (Utf8.ofString text).length)
      (hgood : Hex.WritesAll good data) (hpair : good.length + 2 ≤ 2 * length)
      (hbad : ¬ ∀ byte ∈ [high, low], Hex.IsDigit byte) :
      Breaks text (.invalidHex (Utf8.text [high, low]))

theorem octets_of_writesAll {digits data : Bytes} (h : Hex.WritesAll digits data) :
    octets digits = .ok data := by
  induction h with
  | nil => rfl
  | @cons high low byte digits data hbyte _ ih =>
    have hlt := byte.toNat_lt
    rw [octets, field_of_some (Hex.field?_of_writes hbyte), ih]
    simp only [Except.map, UInt32.toNat_ofNat', Nat.reducePow]
    rw [Nat.mod_eq_of_lt (by omega), UInt8.ofNat_toNat]

theorem field_of_bad {digits : Bytes} (h : ¬ ∀ byte ∈ digits, Hex.IsDigit byte) :
    field digits = .error (.invalidHex (Utf8.text digits)) := by
  rw [field, Hex.field?_eq_none h]

theorem octets_of_bad {good data : Bytes} (h : Hex.WritesAll good data) {high low : UInt8}
    (hbad : ¬ ∀ byte ∈ [high, low], Hex.IsDigit byte) (rest : Bytes) :
    octets (good ++ high :: low :: rest) = .error (.invalidHex (Utf8.text [high, low])) := by
  induction h with
  | nil => rw [List.nil_append, octets, field_of_bad hbad]
  | cons hbyte _ ih =>
    rw [List.cons_append, List.cons_append, octets, field_of_some (Hex.field?_of_writes hbyte), ih]
    rfl

-- Digits in pairs write bytes, or there is a first pair that does not.
theorem writesAll_or_bad (length : Nat) {digits : Bytes} (hlength : digits.length = 2 * length) :
    (∃ data, Hex.WritesAll digits data) ∨
      ∃ good data high low rest, digits = good ++ high :: low :: rest ∧
        Hex.WritesAll good data ∧ ¬ ∀ byte ∈ [high, low], Hex.IsDigit byte := by
  induction length generalizing digits with
  | zero =>
    obtain rfl := List.length_eq_zero_iff.mp hlength
    exact Or.inl ⟨[], .nil⟩
  | succ length ih =>
    match digits with
    | [] => simp at hlength
    | [_] =>
      rw [List.length_singleton] at hlength
      omega
    | high :: low :: digits =>
      by_cases hpair : ∀ byte ∈ [high, low], Hex.IsDigit byte
      · obtain ⟨value, hvalue⟩ := Hex.exists_writes (Nat.le_of_ble_eq_true rfl) hpair
        have hlt : value.toNat < 256 := hvalue.lt
        have hbyte : Hex.Writes [high, low] (UInt8.ofNat value.toNat).toNat := by
          rwa [UInt8.toNat_ofNat', Nat.mod_eq_of_lt hlt]
        simp only [List.length_cons] at hlength
        have hrest : digits.length = 2 * length := by omega
        rcases ih hrest with ⟨data, hdata⟩ | ⟨good, data, bad, low', rest, rfl, hgood, hbad⟩
        · exact Or.inl ⟨_, .cons hbyte hdata⟩
        · exact Or.inr ⟨_, _, bad, low', rest, rfl, .cons hbyte hgood, hbad⟩
      · exact Or.inr ⟨[], [], high, low, digits, rfl, .nil, hpair⟩

theorem ofForm_of_spells {parts : Parts} {frame : Frame} (h : parts.Spells frame) :
    ofForm parts.form frame.id frame.data frame.dlc = frame := by
  obtain ⟨-, -, -, -, -, hextended, hremote, hfd, hbrs⟩ := h
  obtain ⟨id, data, dlc, extended, remote, fd, brs⟩ := frame
  simp only [ofForm, mk.injEq, true_and]
  refine ⟨hextended.symm, ?_, ?_, ?_⟩
  · rw [Bool.eq_iff_iff, beq_iff_eq, hremote]
  · rw [Bool.eq_iff_iff, Bool.or_eq_true, beq_iff_eq, beq_iff_eq, hfd]
  · rw [Bool.eq_iff_iff, beq_iff_eq, hbrs]

section

variable {form : Form} {id rest : Bytes} {code : UInt8}

theorem parse_letter (form : Form) (rest : Bytes) :
    parse (form.letter :: rest) = parseForm form (rest.length + 1) rest := by
  rw [parse, Form.ofLetter?_letter, List.length_cons]

theorem parse_fields (hwidth : id.length = form.idDigits) :
    parse (form.letter :: (id ++ code :: rest)) =
      (field id).bind fun number =>
        parseLength form number (form.letter :: (id ++ code :: rest)).length code rest := by
  rw [parse_letter, parseForm, List.drop_left' hwidth, List.take_left' hwidth, List.length_cons]
  cases field id with
  | ok number => rfl
  | error cause => rfl

-- What is left to be decided when the identifier and the length code are digits.
theorem parse_body_of_digits {number : UInt32} {value length : Nat}
    (hwidth : id.length = form.idDigits) (hid : Hex.Writes id number.toNat)
    (hcode : Hex.Stands code value) (hlength : Length.table[value]? = some length) :
    parse (form.letter :: (id ++ code :: rest)) =
      if form.kind = .remote then .ok (ofForm form number [] (UInt8.ofNat length))
      else if rest.length < 2 * length then
        .error (.tooShort (2 + form.idDigits + 2 * length)
          (form.letter :: (id ++ code :: rest)).length)
      else (octets (rest.take (2 * length))).map fun data =>
        ofForm form number data (UInt8.ofNat length) := by
  have hlen : Length.ofCode value = length := by
    rw [Length.ofCode, List.getD_eq_getElem?_getD, hlength, Option.getD_some]
  have hfield := field_of_some (Hex.field?_of_writes hid)
  rw [UInt32.ofNat_toNat] at hfield
  rw [parse_fields hwidth, hfield, Except.bind, parseLength, Hex.value?_eq_some_iff.mpr hcode]
  simp only [hlen, Nat.add_comm form.idDigits 2]

theorem parse_of_head (hshort : rest.length < form.idDigits + 1) :
    parse (form.letter :: rest) =
      .error (.tooShort (1 + form.idDigits + 1) (form.letter :: rest).length) := by
  rw [parse_letter, parseForm, List.drop_eq_nil_of_le (by omega), List.length_cons,
    Nat.add_assoc, Nat.add_comm 1, Nat.add_assoc]

end

theorem parse_of_spells {parts : Parts} {frame : Frame} (h : parts.Spells frame) :
    parse parts.line = .ok frame := by
  obtain ⟨value, hcode, hlength⟩ := h.code
  rw [Parts.line, parse_body_of_digits h.width h.id hcode hlength, UInt8.ofNat_toNat]
  by_cases hkind : parts.form.kind = .remote
  · rw [if_pos hkind, ← (h.request hkind).2, ofForm_of_spells h]
  · obtain ⟨hpayload, hdata⟩ := h.carries hkind
    have hlong : ¬ (parts.payload ++ parts.rest).length < 2 * frame.dlc.toNat := by
      rw [List.length_append]
      omega
    rw [if_neg hkind, if_neg hlong, List.take_left' hpayload, octets_of_writesAll hdata]
    exact congrArg Except.ok (ofForm_of_spells h)

theorem parse_of_breaks {text : String} {cause : DecodeError} (h : Breaks text cause) :
    parse (Utf8.ofString text) = .error cause := by
  cases h with
  | empty hline => rw [hline]; rfl
  | @letter char chars htext hletter =>
    have hdecode := Utf8.decode_encode text.toList
    rw [htext] at hdecode
    cases hline : Utf8.ofString text with
    | nil =>
      rw [Utf8.ofString, htext] at hline
      rw [hline, Utf8.decode_nil] at hdecode
      cases hdecode
    | cons byte rest =>
      have hnone : Form.ofLetter? byte = none := by
        rw [Form.ofLetter?, List.find?_eq_none]
        intro form _ hform
        exact hletter form (by rw [hline, List.head?_cons, beq_iff_eq.mp hform])
      rw [Utf8.ofString, htext] at hline
      rw [hline, Utf8.decode_cons] at hdecode
      rw [parse, hnone, (List.cons.inj hdecode).1]
  | head hline hshort =>
    rw [hline, List.length_cons] at hshort
    rw [hline, parse_of_head (by omega)]
  | id hline hwidth hid =>
    rw [hline, parse_fields hwidth, field_of_bad hid]
    rfl
  | code hline hwidth hid hcode =>
    obtain ⟨number, hnumber⟩ := Hex.exists_writes (hwidth ▸ Form.idDigits_le _) hid
    have hfield := field_of_some (Hex.field?_of_writes hnumber)
    rw [hline, parse_fields hwidth, hfield, Except.bind, parseLength,
      Hex.value?_eq_none_iff.mpr hcode]
  | payload hline hwidth hid hcode hlength hkind hshort =>
    obtain ⟨number, hnumber⟩ := Hex.exists_writes (hwidth ▸ Form.idDigits_le _) hid
    rw [hline, List.length_cons, List.length_append, List.length_cons, hwidth] at hshort
    rw [hline, parse_body_of_digits hwidth hnumber hcode hlength, if_neg hkind, if_pos (by omega)]
  | @pair form id good data rest code high low value length hline hwidth hid hcode hlength hkind
      hlong hgood hpair hbad =>
    obtain ⟨number, hnumber⟩ := Hex.exists_writes (hwidth ▸ Form.idDigits_le _) hid
    rw [hline, List.length_cons, List.length_append, List.length_cons, hwidth] at hlong
    have hshort : ¬ (good ++ high :: low :: rest).length < 2 * length := by omega
    obtain ⟨more, hmore⟩ : ∃ more, 2 * length = good.length + (more + 2) :=
      ⟨2 * length - good.length - 2, by omega⟩
    have htake : (good ++ high :: low :: rest).take (2 * length) =
        good ++ high :: low :: rest.take more := by
      rw [hmore, List.take_length_add_append]
      rfl
    rw [hline, parse_body_of_digits hwidth hnumber hcode hlength, if_neg hkind, if_neg hshort,
      htake, octets_of_bad hgood hbad]
    rfl

-- What a line with digits in the right places spells, if its payload is good.
theorem spells_ofForm {form : Form} {id payload data rest : Bytes} {code : UInt8} {number : UInt32}
    {value length : Nat} (hwidth : id.length = form.idDigits) (hid : Hex.Writes id number.toNat)
    (hcode : Hex.Stands code value) (hlength : Length.table[value]? = some length)
    (hrequest : form.kind = .remote → payload = [] ∧ data = [])
    (hcarries : form.kind ≠ .remote →
      payload.length = 2 * length ∧ Hex.WritesAll payload data) :
    Parts.Spells ⟨form, id, code, payload, rest⟩
      (ofForm form number data (UInt8.ofNat length)) := by
  have hdlc : (UInt8.ofNat length).toNat = length :=
    Length.toNat_ofNat (List.mem_of_getElem? hlength)
  constructor
  case width => exact hwidth
  case id => exact hid
  case code => exact ⟨value, hcode, by rw [hlength]; exact congrArg some hdlc.symm⟩
  case request => exact hrequest
  case carries =>
    intro hkind
    obtain ⟨hpayload, hdata⟩ := hcarries hkind
    exact ⟨by rw [hpayload]; exact congrArg (2 * ·) hdlc.symm, hdata⟩
  case extended => rfl
  case remote => exact beq_iff_eq
  case fd => simp only [ofForm, Bool.or_eq_true, beq_iff_eq]
  case brs => exact beq_iff_eq

-- The rules from the identifier on.
private theorem spells_or_breaks_of_fields {text : String} {form : Form} {id tail : Bytes}
    {code : UInt8} (hline : Utf8.ofString text = form.letter :: (id ++ code :: tail))
    (hwidth : id.length = form.idDigits) :
    (∃ (parts : Parts) (frame : Frame),
        parts.line = Utf8.ofString text ∧ parts.Spells frame) ∨
      ∃ cause, Breaks text cause := by
  by_cases hid : ∀ byte ∈ id, Hex.IsDigit byte
  swap
  · exact Or.inr ⟨_, .id hline hwidth hid⟩
  by_cases hdigit : Hex.IsDigit code
  swap
  · exact Or.inr ⟨_, .code hline hwidth hid hdigit⟩
  obtain ⟨number, hnumber⟩ := Hex.exists_writes (hwidth ▸ form.idDigits_le) hid
  obtain ⟨value, hcode⟩ := hdigit
  obtain ⟨length, hlength⟩ : ∃ length, Length.table[value]? = some length :=
    ⟨_, List.getElem?_eq_getElem (Hex.value?_lt (Hex.value?_eq_some_iff.mpr hcode))⟩
  by_cases hkind : form.kind = .remote
  · refine Or.inl ⟨⟨form, id, code, [], tail⟩, _, hline.symm,
      spells_ofForm hwidth hnumber hcode hlength (fun _ => ⟨rfl, rfl⟩) fun hne => ?_⟩
    exact absurd hkind hne
  by_cases hshort : (Utf8.ofString text).length < 2 + form.idDigits + 2 * length
  · exact Or.inr ⟨_, .payload hline hwidth hid hcode hlength hkind hshort⟩
  have hlong := Nat.le_of_not_lt hshort
  have htail : 2 * length ≤ tail.length := by
    rw [hline, List.length_cons, List.length_append, List.length_cons, hwidth] at hlong
    omega
  have hpayload : (tail.take (2 * length)).length = 2 * length := List.length_take_of_le htail
  have hcut := List.take_append_drop (2 * length) tail
  generalize tail.take (2 * length) = payload at hpayload hcut
  generalize tail.drop (2 * length) = rest at hcut
  subst hcut
  rcases writesAll_or_bad length hpayload with
    ⟨data, hdata⟩ | ⟨good, data, high, low, bad, rfl, hgood, hbad⟩
  · exact Or.inl ⟨⟨form, id, code, payload, rest⟩, _, hline.symm,
      spells_ofForm hwidth hnumber hcode hlength (fun hk => absurd hk hkind)
        fun _ => ⟨hpayload, hdata⟩⟩
  · rw [List.append_assoc, List.cons_append, List.cons_append] at hline
    rw [List.length_append, List.length_cons, List.length_cons] at hpayload
    exact Or.inr ⟨_, .pair hline hwidth hid hcode hlength hkind hlong hgood (by omega) hbad⟩

-- Every text spells a frame or breaks a rule.
theorem spells_or_breaks (text : String) :
    (∃ (parts : Parts) (frame : Frame),
        parts.line = Utf8.ofString text ∧ parts.Spells frame) ∨
      ∃ cause, Breaks text cause := by
  cases hline : Utf8.ofString text with
  | nil => exact Or.inr ⟨_, .empty hline⟩
  | cons letter rest =>
    cases hform : Form.ofLetter? letter with
    | none =>
      cases htext : text.toList with
      | nil =>
        rw [Utf8.ofString, htext] at hline
        cases hline
      | cons char chars =>
        refine Or.inr ⟨_, .letter htext fun form hhead => ?_⟩
        rw [hline, List.head?_cons, Option.some.injEq] at hhead
        rw [hhead, Form.ofLetter?_letter] at hform
        cases hform
    | some form =>
      obtain rfl := Form.letter_of_ofLetter? hform
      by_cases hshort : rest.length < form.idDigits + 1
      · refine Or.inr ⟨_, .head hline ?_⟩
        rw [hline, List.length_cons]
        omega
      · obtain ⟨id, code, tail, rfl, hwidth⟩ := exists_fields hshort
        rw [← hline]
        exact spells_or_breaks_of_fields hline hwidth

-- The part of a line that is read, from the letter to the end of the payload.
def Parts.front (parts : Parts) : Bytes :=
  parts.form.letter :: (parts.id ++ parts.code :: parts.payload)

theorem Parts.line_eq (parts : Parts) : parts.line = parts.front ++ parts.rest := by
  simp only [line, front, List.cons_append, List.append_assoc]

theorem Parts.Spells.with_rest {parts : Parts} {frame : Frame} (h : parts.Spells frame)
    (rest : Bytes) : Spells { parts with rest := rest } frame :=
  ⟨h.width, h.id, h.code, h.request, h.carries, h.extended, h.remote, h.fd, h.brs⟩

-- What follows the payload is ignored.
theorem parse_front_append {parts : Parts} {frame : Frame} (h : parts.Spells frame)
    (rest : Bytes) : parse (parts.front ++ rest) = .ok frame := by
  have hparse := parse_of_spells (h.with_rest rest)
  rwa [Parts.line_eq] at hparse

theorem exists_parts_of_parse {text : String} {frame : Frame}
    (h : parse (Utf8.ofString text) = .ok frame) :
    ∃ parts : Parts, parts.line = Utf8.ofString text ∧ parts.Spells frame := by
  rcases spells_or_breaks text with ⟨parts, other, hline, hspells⟩ | ⟨cause, hbreaks⟩
  · have hparse := parse_of_spells hspells
    rw [hline, h] at hparse
    cases hparse
    exact ⟨parts, hline, hspells⟩
  · rw [parse_of_breaks hbreaks] at h
    cases h

-- A text is read as a frame just when its bytes spell that frame, and otherwise it is
-- refused for the rule that it breaks first. Either way no byte outside of it is looked at.
theorem parse_iff_spells_breaks (text : String) :
    (∀ frame, parse (Utf8.ofString text) = .ok frame ↔
      ∃ parts : Parts, parts.line = Utf8.ofString text ∧ parts.Spells frame) ∧
    (∀ cause, parse (Utf8.ofString text) = .error cause ↔ Breaks text cause) ∧
    parseAt (Utf8.ofString text) = some (parse (Utf8.ofString text)) := by
  refine ⟨fun frame => ⟨fun h => ?_, ?_⟩, fun cause => ⟨fun h => ?_, parse_of_breaks⟩,
    parseAt_eq _⟩
  · rcases spells_or_breaks text with ⟨parts, other, hline, hspells⟩ | ⟨cause, hbreaks⟩
    · have hparse := parse_of_spells hspells
      rw [hline, h] at hparse
      cases hparse
      exact ⟨parts, hline, hspells⟩
    · rw [parse_of_breaks hbreaks] at h
      cases h
  · rintro ⟨parts, hline, hspells⟩
    rw [← hline]
    exact parse_of_spells hspells
  · rcases spells_or_breaks text with ⟨parts, other, hline, hspells⟩ | ⟨other, hbreaks⟩
    · rw [← hline, parse_of_spells hspells] at h
      cases h
    · rw [parse_of_breaks hbreaks] at h
      cases h
      exact hbreaks

end Frame

end QuadCan
