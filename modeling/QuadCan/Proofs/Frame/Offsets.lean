import QuadCan.Frame.Parse

namespace QuadCan.Frame

-- The bytes from one offset to another, as long as the line reaches that far.
def slice? (line : Bytes) (start stop : Nat) : Option Bytes :=
  if start ≤ stop ∧ stop ≤ line.length then some ((line.take stop).drop start) else none

-- The length code at its offset, and the payload after it.
def parseLengthAt (form : Form) (id : UInt32) (text : Bytes) :
    Option (Except DecodeError Frame) := do
  let byte ← text[1 + form.idDigits]?
  match Hex.value? byte with
  | none => pure (.error (.invalidLengthCode (Char.ofNat byte.toNat)))
  | some code =>
      let length := Length.ofCode code
      let start := 1 + form.idDigits + 1
      if form.kind = .remote ∨ length = 0 then
        pure (.ok (ofForm form id [] (UInt8.ofNat length)))
      else if text.length < start + 2 * length then
        pure (.error (.tooShort (start + 2 * length) text.length))
      else
        let digits ← slice? text start (start + 2 * length)
        pure ((octets digits).map fun data => ofForm form id data (UInt8.ofNat length))

-- The same parser in terms of offsets into the line. There is no result where an
-- offset lies outside of it.
def parseAt (line : Bytes) : Option (Except DecodeError Frame) :=
  match line with
  | [] => pure (.error .empty)
  | letter :: rest =>
      match Form.ofLetter? letter with
      | none => pure (.error (.notAFrame (Utf8.first letter rest).1))
      | some form =>
          if line.length < 1 + form.idDigits + 1 then
            pure (.error (.tooShort (1 + form.idDigits + 1) line.length))
          else do
            let digits ← slice? line 1 (1 + form.idDigits)
            match field digits with
            | .ok id => parseLengthAt form id line
            | .error cause => pure (.error cause)

theorem slice?_append (front digits rest : Bytes) {start stop : Nat} (hstart : start = front.length)
    (hstop : stop = front.length + digits.length) :
    slice? (front ++ (digits ++ rest)) start stop = some digits := by
  have hinside : start ≤ stop ∧ stop ≤ (front ++ (digits ++ rest)).length := by
    simp only [List.length_append]
    omega
  rw [slice?, if_pos hinside, ← List.append_assoc,
    List.take_left' (by rw [List.length_append, hstop]), List.drop_left' hstart.symm]

section

variable {form : Form} {digits tail : Bytes} {code : UInt8}

theorem parseLengthAt_eq (hwidth : digits.length = form.idDigits) (id : UInt32) :
    parseLengthAt form id (form.letter :: (digits ++ code :: tail)) =
      some (parseLength form id (form.letter :: (digits ++ code :: tail)).length code tail) := by
  have hcode : (form.letter :: (digits ++ code :: tail))[1 + form.idDigits]? = some code := by
    rw [Nat.add_comm, List.getElem?_cons_succ, ← hwidth,
      List.getElem?_append_right (Nat.le_refl _), Nat.sub_self, List.getElem?_cons_zero]
  rw [parseLengthAt, hcode, parseLength]
  simp only [Option.bind_eq_bind, Option.bind_some]
  cases Hex.value? code with
  | none => rfl
  | some value =>
    simp only
    generalize Length.ofCode value = length
    by_cases hkind : form.kind = .remote
    · rw [if_pos (.inl hkind), if_pos hkind]
      rfl
    rw [if_neg hkind]
    by_cases hempty : length = 0
    · subst hempty
      rw [if_pos (.inr rfl), if_neg (Nat.not_lt_zero _)]
      rfl
    have hsize : (form.letter :: (digits ++ code :: tail)).length =
        1 + form.idDigits + 1 + tail.length := by
      rw [List.length_cons, List.length_append, List.length_cons, hwidth]
      omega
    rw [if_neg (not_or.mpr ⟨hkind, hempty⟩), hsize]
    by_cases hshort : tail.length < 2 * length
    · rw [if_pos (by omega), if_pos hshort]
      congr 4
      omega
    · have hline : form.letter :: (digits ++ code :: tail) = (form.letter :: (digits ++ [code])) ++
          (tail.take (2 * length) ++ tail.drop (2 * length)) := by
        rw [List.take_append_drop, List.cons_append, List.append_assoc, List.singleton_append]
      have hfront : (form.letter :: (digits ++ [code])).length = 1 + form.idDigits + 1 := by
        rw [List.length_cons, List.length_append, List.length_singleton, hwidth, Nat.add_comm 1]
      have hpayload : (tail.take (2 * length)).length = 2 * length :=
        List.length_take_of_le (Nat.le_of_not_lt hshort)
      rw [if_neg (by omega), if_neg hshort, hline,
        slice?_append _ _ _ hfront.symm (by rw [hfront, hpayload])]
      rfl

end

-- Bytes that are long enough are an identifier, a length code and what follows.
theorem exists_fields {rest : Bytes} {width : Nat} (h : ¬ rest.length < width + 1) :
    ∃ id code tail, rest = id ++ code :: tail ∧ id.length = width := by
  have hlt : width < rest.length := by omega
  refine ⟨rest.take width, rest[width], rest.drop (width + 1), ?_,
    List.length_take_of_le (Nat.le_of_lt hlt)⟩
  rw [List.getElem_cons_drop, List.take_append_drop]

-- Every offset that the parser looks at lies in the line.
theorem parseAt_eq (line : Bytes) : parseAt line = some (parse line) := by
  cases line with
  | nil => rfl
  | cons letter rest =>
    rw [parseAt, parse]
    cases hform : Form.ofLetter? letter with
    | none => rfl
    | some form =>
      obtain rfl := Form.letter_of_ofLetter? hform
      simp only [parseForm, List.length_cons]
      by_cases hshort : rest.length < form.idDigits + 1
      · rw [if_pos (by omega), List.drop_eq_nil_of_le (by omega)]
        congr 3
        omega
      · obtain ⟨digits, code, tail, rfl, hwidth⟩ := exists_fields hshort
        have hslice : slice? ([form.letter] ++ (digits ++ code :: tail)) 1 (1 + form.idDigits) =
            some digits := slice?_append _ _ _ rfl (by rw [hwidth]; rfl)
        rw [List.singleton_append] at hslice
        rw [if_neg (by omega), List.drop_left' hwidth, List.take_left' hwidth, hslice]
        simp only [Option.bind_eq_bind, Option.bind_some]
        cases field digits with
        | ok id => exact parseLengthAt_eq hwidth id
        | error cause => rfl

end QuadCan.Frame
