import QuadCan.Text.Utf8

namespace QuadCan.Utf8

theorem decode_nil : decode [] = [] := by rw [decode]

theorem decode_cons (lead : UInt8) (rest : Bytes) :
    decode (lead :: rest) = (first lead rest).1 :: decode (first lead rest).2 := by rw [decode]

theorem first_of_ascii {lead : UInt8} (h : lead < 0x80) (rest : Bytes) :
    first lead rest = (Char.ofNat lead.toNat, rest) := by
  simp [first, h]

private theorem ofNat_eq {value : Nat} {char : Char} (h : value = char.toNat) :
    Char.ofNat value = char := by
  subst h
  exact Char.ofNat_toNat char

private theorem toNat_ofNat (value : Nat) (h : value < 256) :
    (UInt8.ofNat value).toNat = value := by
  simp only [UInt8.toNat_ofNat', Nat.reducePow]
  omega

-- The first character of an encoded text is the first character of the text.
theorem decode_encodeChar (char : Char) (rest : Bytes) :
    decode (String.utf8EncodeChar char ++ rest) = char :: decode rest := by
  have hvalid : char.val.toNat < 0xD800 ∨ 0xDFFF < char.val.toNat ∧ char.val.toNat < 0x110000 :=
    char.valid
  have hchar : ∀ value, value = char.val.toNat → Char.ofNat value = char := fun _ => ofNat_eq
  unfold String.utf8EncodeChar
  generalize char.val.toNat = value at hvalid hchar ⊢
  simp only
  split
  next h =>
    have h1 := toNat_ofNat value (by omega)
    generalize UInt8.ofNat value = lead at *
    rw [List.cons_append, List.nil_append, decode_cons,
      first_of_ascii (by rw [UInt8.lt_iff_toNat_lt, h1]; simp; omega), hchar _ h1]
  split
  next _ h =>
    have h1 := toNat_ofNat (value / 64 % 32 + 192) (by omega)
    have h2 := toNat_ofNat (value % 64 + 128) (by omega)
    generalize UInt8.ofNat (value / 64 % 32 + 192) = lead at *
    generalize UInt8.ofNat (value % 64 + 128) = second at *
    have : first lead (second :: rest) = (char, rest) := by
      simp only [first, isTail, UInt8.lt_iff_toNat_lt, UInt8.le_iff_toNat_le, two, h1, h2,
        decide_eq_true_eq, Bool.and_eq_true, UInt8.reduceToNat]
      rw [if_neg (by omega), if_pos (by omega), if_pos (by omega), hchar _ (by omega)]
    simp only [List.cons_append, List.nil_append, decode_cons, this]
  split
  next _ _ h =>
    have h1 := toNat_ofNat (value / 4096 % 16 + 224) (by omega)
    have h2 := toNat_ofNat (value / 64 % 64 + 128) (by omega)
    have h3 := toNat_ofNat (value % 64 + 128) (by omega)
    generalize UInt8.ofNat (value / 4096 % 16 + 224) = lead at *
    generalize UInt8.ofNat (value / 64 % 64 + 128) = second at *
    generalize UInt8.ofNat (value % 64 + 128) = third at *
    have hsecond : isSecondOfThree lead second = true := by
      simp only [isSecondOfThree, isTail, UInt8.le_iff_toNat_le, ← UInt8.toNat_inj, h1, h2,
        UInt8.reduceToNat]
      split
      · simp only [Bool.and_eq_true, decide_eq_true_eq]; omega
      split
      · simp only [Bool.and_eq_true, decide_eq_true_eq]; omega
      · simp only [Bool.and_eq_true, decide_eq_true_eq]; omega
    have : first lead (second :: third :: rest) = (char, rest) := by
      simp only [first, hsecond, isTail, UInt8.lt_iff_toNat_lt, UInt8.le_iff_toNat_le, three,
        h1, h2, h3, decide_eq_true_eq, Bool.and_eq_true, UInt8.reduceToNat]
      rw [if_neg (by omega), if_neg (by omega), if_pos (by omega), if_pos trivial,
        if_pos (by omega), hchar _ (by omega)]
    simp only [List.cons_append, List.nil_append, decode_cons, this]
  next _ _ h =>
    have h1 := toNat_ofNat (value / 262144 % 8 + 240) (by omega)
    have h2 := toNat_ofNat (value / 4096 % 64 + 128) (by omega)
    have h3 := toNat_ofNat (value / 64 % 64 + 128) (by omega)
    have h4 := toNat_ofNat (value % 64 + 128) (by omega)
    generalize UInt8.ofNat (value / 262144 % 8 + 240) = lead at *
    generalize UInt8.ofNat (value / 4096 % 64 + 128) = second at *
    generalize UInt8.ofNat (value / 64 % 64 + 128) = third at *
    generalize UInt8.ofNat (value % 64 + 128) = fourth at *
    have hsecond : isSecondOfFour lead second = true := by
      simp only [isSecondOfFour, isTail, UInt8.le_iff_toNat_le, ← UInt8.toNat_inj, h1, h2,
        UInt8.reduceToNat]
      split
      · simp only [Bool.and_eq_true, decide_eq_true_eq]; omega
      split
      · simp only [Bool.and_eq_true, decide_eq_true_eq]; omega
      · simp only [Bool.and_eq_true, decide_eq_true_eq]; omega
    have : first lead (second :: third :: fourth :: rest) = (char, rest) := by
      simp only [first, hsecond, isTail, UInt8.lt_iff_toNat_lt, UInt8.le_iff_toNat_le, four, h1, h2,
        h3, h4, decide_eq_true_eq, Bool.and_eq_true, UInt8.reduceToNat]
      rw [if_neg (by omega), if_neg (by omega), if_neg (by omega), if_pos (by omega),
        if_pos trivial, if_pos (by omega), if_pos (by omega), hchar _ (by omega)]
    simp only [List.cons_append, List.nil_append, decode_cons, this]

-- Decoding undoes encoding.
theorem decode_encode (text : List Char) : decode (encode text) = text := by
  induction text with
  | nil => exact decode_nil
  | cons char text ih =>
    rw [encode, List.flatMap_cons, decode_encodeChar]
    exact congrArg _ ih

end QuadCan.Utf8
