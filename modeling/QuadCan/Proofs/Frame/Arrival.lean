import QuadCan.Proofs.Frame.Grammar

namespace QuadCan

namespace Length

-- The length that a payload is announced with: the least one with a code that holds it, and the
-- longest of all where none does.
def bucket (length : Nat) : Nat :=
  (table.filter (length ≤ ·)).min?.getD longest

theorem le_longest_of_mem {length : Nat} (h : length ∈ table) : length ≤ longest := by
  have hall : ∀ length ∈ table, length ≤ longest := by decide
  exact hall length h

theorem bucket_of_longest_lt {length : Nat} (h : longest < length) : bucket length = longest := by
  have hnone : table.filter (length ≤ ·) = [] := by
    rw [List.filter_eq_nil_iff]
    intro other hmem
    have hle := le_longest_of_mem hmem
    simp only [decide_eq_true_eq]
    omega
  rw [bucket, hnone]
  rfl

-- Up to the longest length there is a bucket that holds a payload. The lengths with a code of
-- their own fill theirs.
theorem bucket_of_le {length : Nat} (h : length ≤ longest) :
    bucket length ∈ table ∧ length ≤ bucket length ∧
      (bucket length ≤ length ↔ length ∈ table) := by
  have hall : ∀ length ≤ longest, bucket length ∈ table ∧ length ≤ bucket length ∧
      (bucket length ≤ length ↔ length ∈ table) := by decide
  exact hall length h

theorem bucket_mem (length : Nat) : bucket length ∈ table := by
  by_cases h : length ≤ longest
  · exact (bucket_of_le h).1
  · rw [bucket_of_longest_lt (Nat.lt_of_not_le h)]
    decide

theorem bucket_pos {length : Nat} (h : 0 < length) : 0 < bucket length := by
  by_cases hle : length ≤ longest
  · exact Nat.lt_of_lt_of_le h (bucket_of_le hle).2.1
  · rw [bucket_of_longest_lt (Nat.lt_of_not_le hle)]
    decide

-- A payload reaches the announced length where it has that length, or is cut down to it.
theorem bucket_le_iff (length : Nat) :
    bucket length ≤ length ↔ length ∈ table ∨ longest < length := by
  by_cases h : length ≤ longest
  · rw [(bucket_of_le h).2.2]
    exact ⟨Or.inl, fun hor => hor.resolve_right (Nat.not_lt_of_le h)⟩
  · have hlt := Nat.lt_of_not_le h
    rw [bucket_of_longest_lt hlt]
    exact ⟨fun _ => Or.inr hlt, fun _ => Nat.le_of_lt hlt⟩

theorem bucket_of_bucket_le {length : Nat} (h : bucket length ≤ length) :
    bucket length = min length longest := by
  by_cases hle : length ≤ longest
  · have hge := (bucket_of_le hle).2.1
    omega
  · rw [bucket_of_longest_lt (Nat.lt_of_not_le hle)]
    omega

theorem getElem?_code (length : Nat) : table[code length]? = some (bucket length) := by
  by_cases h : length ≤ longest
  · have hall : ∀ length ≤ longest, table[code length]? = some (bucket length) := by decide
    exact hall length h
  · have hlt := Nat.lt_of_not_le h
    have hnone : table.findIdx? (length ≤ ·) = none := by
      rw [List.findIdx?_eq_none_iff]
      intro other hmem
      have hle := le_longest_of_mem hmem
      exact decide_eq_false (by omega)
    rw [code, hnone, bucket_of_longest_lt hlt]
    rfl

theorem ofCode_code_eq_bucket (length : Nat) : ofCode (code length) = bucket length := by
  rw [ofCode, List.getD_eq_getElem?_getD, getElem?_code, Option.getD_some]

end Length

namespace Frame

variable {frame : Frame}

-- The bytes of a line without a channel that come before the payload.
def headLength (frame : Frame) : Nat :=
  if frame.extended then 10 else 5

-- What a receiver makes of a line that was written for a frame, well-formed or not. The line
-- announces a length, and its payload has to reach that length. Bytes past it are left out.
def arrival (frame : Frame) : Except DecodeError Frame :=
  if frame.remote then
    if frame.fd then
      -- the line is that of a frame with data, which are missing
      if frame.dlc = 0 then .ok { frame with data := [], dlc := 0, remote := false }
      else
        .error (.tooShort (frame.headLength + 2 * Length.bucket frame.dlc.toNat) frame.headLength)
    else
      .ok { frame with
        data := [], dlc := UInt8.ofNat (Length.bucket frame.dlc.toNat), fd := false, brs := false }
  else if frame.data.length ∈ Length.table ∨ Length.longest < frame.data.length then
    .ok { frame with
      data := frame.data.take Length.longest
      dlc := UInt8.ofNat (min frame.data.length Length.longest)
      brs := frame.fd && frame.brs }
  else
    .error (.tooShort (frame.headLength + 2 * Length.bucket frame.data.length)
      (frame.headLength + 2 * frame.data.length))

theorem take_flatMap_ofByte (data : Bytes) (count : Nat) :
    (data.flatMap Hex.ofByte).take (2 * count) = (data.take count).flatMap Hex.ofByte := by
  induction data generalizing count with
  | nil => simp
  | cons byte data ih =>
    cases count with
    | zero => rfl
    | succ count =>
      have htwo : 2 * (count + 1) = (Hex.ofByte byte).length + 2 * count := by
        rw [Hex.ofByte, Hex.length_padded]
        omega
      rw [List.flatMap_cons, htwo, List.take_length_add_append, ih, List.take_succ_cons,
        List.flatMap_cons]

-- The length that the code of a frame stands for.
def announced (frame : Frame) : Nat :=
  Length.bucket (if frame.remote then frame.dlc.toNat else frame.data.length)

theorem announcedLength_eq (frame : Frame) : frame.announcedLength = frame.announced := by
  rw [announcedLength, lengthCode, Length.ofCode_code_eq_bucket, announced]

theorem id_lt_pow_of_fits (h : frame.extended = true ∨ frame.id.toNat < 0x1000) :
    frame.id.toNat < 16 ^ frame.form.idDigits := by
  have hlt := frame.id.toNat_lt
  unfold Form.idDigits form
  split
  next => exact hlt
  next hextended => exact h.resolve_left hextended

-- Where the identifier has room, its line is read up to the payload without a fault.
theorem parse_body_of_fits (h : frame.extended = true ∨ frame.id.toNat < 0x1000) :
    parse frame.body =
      if frame.form.kind = .remote then
        .ok (ofForm frame.form frame.id [] (UInt8.ofNat frame.announced))
      else if frame.payload.length < 2 * frame.announced then
        .error (.tooShort (frame.headLength + 2 * frame.announced)
          (frame.headLength + frame.payload.length))
      else (octets (frame.payload.take (2 * frame.announced))).map fun data =>
        ofForm frame.form frame.id data (UInt8.ofNat frame.announced) := by
  have hlt := id_lt_pow_of_fits h
  have hwidth := Hex.length_padded frame.form.idDigits frame.id.toNat
  have hid : Hex.Writes (Hex.padded frame.form.idDigits frame.id.toNat) frame.id.toNat := by
    refine Hex.writes_of_field? (by rw [hwidth]; exact frame.form.idDigits_le) ?_
    rw [Hex.field?_padded hlt, UInt32.ofNat_toNat]
  have hcode : Hex.Stands (Hex.digit frame.lengthCode) frame.lengthCode :=
    Hex.value?_eq_some_iff.mp (Hex.value?_digit (Length.code_lt _))
  have hhead : frame.headLength = 2 + frame.form.idDigits := by
    unfold headLength Form.idDigits form
    split
    next => rfl
    next => rfl
  have hsize (line : Bytes) (rest : Bytes) (hline : line.length = frame.form.idDigits) :
      (frame.form.letter :: (line ++ Hex.digit frame.lengthCode :: rest)).length =
        frame.headLength + rest.length := by
    rw [List.length_cons, List.length_append, List.length_cons, hline, hhead]
    omega
  rw [body, Hex.upper_eq_padded frame.form.idDigits_pos hlt, List.cons_append,
    parse_body_of_digits hwidth hid hcode (Length.getElem?_code _), hsize _ _ hwidth, hhead]
  rfl

-- Only a frame of the classic format can ask for data on the line.
theorem form_kind_eq_remote (frame : Frame) :
    frame.form.kind = .remote ↔ frame.remote = true ∧ frame.fd = false := by
  obtain ⟨id, data, dlc, extended, remote, fd, brs⟩ := frame
  cases fd with
  | true => cases brs <;> simp [form, kind]
  | false => cases remote <;> simp [form, kind]

-- The flags that do not fit together are lost on the line.
theorem ofForm_form_eq (frame : Frame) (data : Bytes) (dlc : UInt8) :
    ofForm frame.form frame.id data dlc =
      { frame with
        data := data
        dlc := dlc
        remote := frame.remote && !frame.fd
        brs := frame.fd && frame.brs } := by
  obtain ⟨id, _, _, extended, remote, fd, brs⟩ := frame
  cases fd with
  | true => cases brs <;> simp [ofForm, form, kind]
  | false => cases remote <;> simp [ofForm, form, kind]

private theorem parse_body_of_data (h : frame.extended = true ∨ frame.id.toNat < 0x1000)
    (hremote : frame.remote = false) : parse frame.body = frame.arrival := by
  have hkind : frame.form.kind ≠ .remote := by
    rw [Ne, form_kind_eq_remote, hremote]
    simp
  have hannounced : frame.announced = Length.bucket frame.data.length := by
    simp [announced, hremote]
  have hpayload : frame.payload = frame.data.flatMap Hex.ofByte := by simp [payload, hremote]
  have hiff := Length.bucket_le_iff frame.data.length
  rw [parse_body_of_fits h, if_neg hkind, hannounced, hpayload, length_flatMap_ofByte, arrival,
    if_neg (Bool.eq_false_iff.mp hremote)]
  by_cases hreaches : Length.bucket frame.data.length ≤ frame.data.length
  · have hcut := Length.bucket_of_bucket_le hreaches
    have htake : frame.data.take (Length.bucket frame.data.length) =
        frame.data.take Length.longest := by
      rw [hcut, Nat.min_comm, ← List.take_eq_take_min]
    rw [if_neg (by omega), if_pos (hiff.mp hreaches), take_flatMap_ofByte, octets_flatMap_ofByte,
      htake, hcut]
    simp only [Except.map, ofForm_form_eq, hremote, Bool.false_and]
  · rw [if_pos (by omega), if_neg (mt hiff.mpr hreaches)]

private theorem parse_body_of_request (h : frame.extended = true ∨ frame.id.toNat < 0x1000)
    (hremote : frame.remote = true) : parse frame.body = frame.arrival := by
  have hannounced : frame.announced = Length.bucket frame.dlc.toNat := by
    simp [announced, hremote]
  have hpayload : frame.payload = [] := by simp [payload, hremote]
  rw [parse_body_of_fits h, hannounced, hpayload, arrival, if_pos hremote, ofForm_form_eq,
    List.take_nil, List.length_nil]
  cases hfd : frame.fd with
  | false =>
    rw [if_pos ((form_kind_eq_remote frame).mpr ⟨hremote, hfd⟩)]
    simp [hremote]
  | true =>
    have hkind : frame.form.kind ≠ .remote := by
      rw [Ne, form_kind_eq_remote, hfd]
      simp
    rw [if_neg hkind, if_pos rfl]
    by_cases hdlc : frame.dlc = 0
    · have hzero : Length.bucket frame.dlc.toNat = 0 := by
        rw [hdlc]
        decide
      rw [if_pos hdlc, hzero, if_neg (Nat.lt_irrefl _)]
      simp [ofForm_form_eq, octets, Except.map, hfd]
    · have hlength : frame.dlc.toNat ≠ 0 := by simpa [← UInt8.toNat_inj] using hdlc
      have hpos := Length.bucket_pos (Nat.pos_of_ne_zero hlength)
      rw [if_neg hdlc, if_pos (by omega), Nat.add_zero]

theorem parse_body_eq_arrival (h : frame.extended = true ∨ frame.id.toNat < 0x1000) :
    parse frame.body = frame.arrival := by
  cases hremote : frame.remote with
  | false => exact parse_body_of_data h hremote
  | true => exact parse_body_of_request h hremote

-- What arrives has the length that was announced.
theorem dlc_of_arrival {read : Frame} (h : frame.arrival = .ok read) :
    read.dlc.toNat = frame.announcedLength := by
  have hbyte (length : Nat) : (UInt8.ofNat (Length.bucket length)).toNat = Length.bucket length :=
    Length.toNat_ofNat (Length.bucket_mem length)
  rw [announcedLength_eq, announced]
  unfold arrival at h
  split at h
  next hremote =>
    rw [if_pos hremote]
    split at h
    next =>
      split at h
      next hdlc =>
        cases h
        rw [hdlc]
        rfl
      next => cases h
    next => cases h; exact hbyte _
  next hremote =>
    rw [if_neg hremote]
    split at h
    next hreaches =>
      cases h
      rw [← Length.bucket_of_bucket_le ((Length.bucket_le_iff _).mpr hreaches)]
      exact hbyte _
    next => cases h

-- The line of a frame whose identifier has room leads to its channel, and what is read there is
-- settled by the frame alone. What is read as a frame has the length that was announced.
theorem parse_route_encode_eq_arrival (frame : Frame) (channel : Channel)
    (hid : frame.extended = true ∨ frame.id.toNat ≤ 0xFFF) :
    (route (frame.encode channel.val)).1 = channel ∧
      parse (route (frame.encode channel.val)).2 = frame.arrival ∧
      ∀ read, parse (route (frame.encode channel.val)).2 = .ok read →
        read.dlc.toNat = frame.announcedLength := by
  have harrival := parse_body_eq_arrival (hid.imp_right Nat.lt_succ_of_le)
  rw [route_encode]
  refine ⟨rfl, harrival, ?_⟩
  intro read hread
  rw [harrival] at hread
  exact dlc_of_arrival hread

-- Thirteen bytes announce sixteen, and a request in the flexible format announces data.
theorem parse_route_encode_eq_arrival_short :
    let data : Frame := ofFlexibleData 0x123 (List.replicate 13 0x5A) true
    let request : Frame := { ofRequest 0x12345678 9 true with fd := true }
    parse (route (data.encode 2)).2 = .error (.tooShort 37 31) ∧
      parse (route (request.encode 3)).2 = .error (.tooShort 34 10) := by
  intro data request
  have hdata := parse_route_encode_eq_arrival data 2 (Or.inr (by decide))
  have hrequest := parse_route_encode_eq_arrival request 3 (Or.inl rfl)
  exact ⟨hdata.2.1.trans (by decide), hrequest.2.1.trans (by decide)⟩

-- The line of a frame is read as one with as many bytes as were announced, and its own data are
-- the first of them.
def FillsBucket (frame : Frame) (channel : Channel) : Prop :=
  ∃ read, parse (route (frame.encode channel.val)).2 = .ok read ∧
    read.data.length = Length.bucket frame.data.length ∧
    read.data.take frame.data.length = frame.data

-- Nothing fills up the data of a frame on the way, so that only a length with a code arrives. Any
-- other length leaves the line short of the one that it announces, and the line is dropped.
theorem fillsBucket_iff (frame : Frame) (channel : Channel) (hremote : frame.remote = false)
    (hid : frame.extended = true ∨ frame.id.toNat ≤ 0xFFF) :
    (frame.FillsBucket channel ↔ frame.data.length ∈ Length.table) ∧
      (frame.data.length ∉ Length.table → frame.data.length ≤ Length.longest →
        parse (route (frame.encode channel.val)).2 =
          .error (.tooShort (frame.headLength + 2 * Length.bucket frame.data.length)
            (frame.headLength + 2 * frame.data.length))) := by
  have harrival := parse_body_eq_arrival (hid.imp_right Nat.lt_succ_of_le)
  rw [arrival, if_neg (Bool.eq_false_iff.mp hremote)] at harrival
  rw [FillsBucket, route_encode, harrival]
  refine ⟨⟨?_, ?_⟩, ?_⟩
  · rintro ⟨read, hread, -, htake⟩
    split at hread
    next hreaches =>
      refine hreaches.resolve_right fun hlong => ?_
      cases hread
      have hlength := congrArg List.length htake
      rw [List.length_take, List.length_take] at hlength
      omega
    next => cases hread
  · intro hmem
    have hle := Length.le_longest_of_mem hmem
    have hfull := Length.bucket_of_bucket_le ((Length.bucket_le_iff _).mpr (Or.inl hmem))
    rw [if_pos (Or.inl hmem)]
    refine ⟨_, rfl, ?_, ?_⟩
    · rw [List.length_take, hfull, Nat.min_comm]
    · rw [List.take_take, Nat.min_eq_left hle, List.take_length]
  · intro hmem hle
    exact if_neg (not_or.mpr ⟨hmem, Nat.not_lt_of_le hle⟩)

theorem fillsBucket_iff_sixteen :
    let full := ofFlexibleData 0x123 (List.replicate 16 0x5A) true
    let short := ofFlexibleData 0x123 (List.replicate 13 0x5A) true
    full.remote = false ∧ full.id.toNat ≤ 0xFFF ∧ full.FillsBucket 2 ∧
      parse (route (short.encode 2)).2 = .error (.tooShort 37 31) := by
  intro full short
  have hfull := fillsBucket_iff full 2 rfl (Or.inr (by decide))
  have hshort := fillsBucket_iff short 2 rfl (Or.inr (by decide))
  refine ⟨rfl, by decide, hfull.1.mpr (by decide), ?_⟩
  exact (hshort.2 (by decide) (by decide)).trans (by decide)

-- Thirteen bytes do not arrive as sixteen.
theorem exists_not_fillsBucket :
    ¬ ∀ (frame : Frame) (channel : Channel), frame.fd = true → frame.remote = false →
      (frame.extended = true ∨ frame.id.toNat ≤ 0xFFF) → 1 ≤ frame.data.length →
      frame.data.length ≤ 64 → frame.FillsBucket channel := by
  intro hall
  let channel : Channel := 0
  let frame := ofFlexibleData 1 (List.replicate 13 0x5A) false
  have hshort : parse (route (frame.encode channel.val)).2 = .error (.tooShort 37 31) := by decide
  obtain ⟨read, hread, -⟩ :=
    hall frame channel rfl rfl (Or.inr (by decide)) (by decide) (by decide)
  rw [hshort] at hread
  cases hread

end Frame

end QuadCan
