import QuadCan.Proofs.Text.Ascii

namespace QuadCan.Utf8

private theorem toNat_ofNat_of_isValid {value : Nat} (hvalid : value.isValidChar) :
    (Char.ofNat value).toNat = value := by
  rw [Char.ofNat, dif_pos hvalid]
  rfl

private theorem le_two {lead : UInt8} (hlead : (0xC2 ≤ lead && lead ≤ 0xDF) = true)
    (second : UInt8) : 0x80 ≤ (two lead second).toNat := by
  simp only [Bool.and_eq_true, decide_eq_true_eq, UInt8.le_iff_toNat_le, UInt8.reduceToNat] at hlead
  rw [two, toNat_ofNat_of_isValid (Or.inl (by omega))]
  omega

-- The second byte shuts out the surrogates and what two bytes could have said.
private theorem le_three {lead second : UInt8} (hlead : (0xE0 ≤ lead && lead ≤ 0xEF) = true)
    (hsecond : isSecondOfThree lead second = true) (third : UInt8) :
    0x80 ≤ (three lead second third).toNat := by
  simp only [isSecondOfThree, isTail, Bool.and_eq_true, decide_eq_true_eq, UInt8.le_iff_toNat_le,
    ← UInt8.toNat_inj, UInt8.reduceToNat] at hlead hsecond
  have hvalue : 0x80 ≤ lead.toNat % 16 * 4096 + second.toNat % 64 * 64 + third.toNat % 64 ∧
      (lead.toNat % 16 * 4096 + second.toNat % 64 * 64 + third.toNat % 64).isValidChar := by
    unfold Nat.isValidChar
    split at hsecond
    next => simp only [Bool.and_eq_true, decide_eq_true_eq] at hsecond; omega
    next =>
      split at hsecond
      next => simp only [Bool.and_eq_true, decide_eq_true_eq] at hsecond; omega
      next => simp only [Bool.and_eq_true, decide_eq_true_eq] at hsecond; omega
  rw [three, toNat_ofNat_of_isValid hvalue.2]
  exact hvalue.1

private theorem le_four {lead second : UInt8} (hlead : (0xF0 ≤ lead && lead ≤ 0xF4) = true)
    (hsecond : isSecondOfFour lead second = true) (third fourth : UInt8) :
    0x80 ≤ (four lead second third fourth).toNat := by
  simp only [isSecondOfFour, isTail, Bool.and_eq_true, decide_eq_true_eq, UInt8.le_iff_toNat_le,
    ← UInt8.toNat_inj, UInt8.reduceToNat] at hlead hsecond
  have hvalue : 0x80 ≤ lead.toNat % 8 * 262144 + second.toNat % 64 * 4096 +
        third.toNat % 64 * 64 + fourth.toNat % 64 ∧
      (lead.toNat % 8 * 262144 + second.toNat % 64 * 4096 + third.toNat % 64 * 64 +
        fourth.toNat % 64).isValidChar := by
    unfold Nat.isValidChar
    split at hsecond
    next => simp only [Bool.and_eq_true, decide_eq_true_eq] at hsecond; omega
    next =>
      split at hsecond
      next => simp only [Bool.and_eq_true, decide_eq_true_eq] at hsecond; omega
      next => simp only [Bool.and_eq_true, decide_eq_true_eq] at hsecond; omega
  rw [four, toNat_ofNat_of_isValid hvalue.2]
  exact hvalue.1

-- A wide byte begins a wide character, or counts as one where none stands.
theorem wide_first {lead : UInt8} (hlead : ¬ lead < 0x80) (rest : Bytes) :
    0x80 ≤ (first lead rest).1.toNat := by
  have hreplacement : 0x80 ≤ replacement.toNat := by decide
  unfold first
  rw [if_neg hlead]
  split
  next htwo =>
    split
    next second _ =>
      split
      next => exact le_two htwo second
      next => exact hreplacement
    next => exact hreplacement
  split
  next hthree =>
    split
    next second _ =>
      split
      next hsecond =>
        split
        next third _ =>
          split
          next => exact le_three hthree hsecond third
          next => exact hreplacement
        next => exact hreplacement
      next => exact hreplacement
    next => exact hreplacement
  split
  next hfour =>
    split
    next second _ =>
      split
      next hsecond =>
        split
        next third _ =>
          split
          next =>
            split
            next fourth _ =>
              split
              next => exact le_four hfour hsecond third fourth
              next => exact hreplacement
            next => exact hreplacement
          next => exact hreplacement
        next => exact hreplacement
      next => exact hreplacement
    next => exact hreplacement
  next => exact hreplacement

theorem ofString_text (bytes : Bytes) : ofString (text bytes) = repair bytes := by
  rw [ofString, text, String.toList_ofList, repair]

theorem repair_nil : repair [] = [] := by
  rw [repair, decode_nil]
  rfl

theorem repair_cons_of_ascii {byte : UInt8} (hbyte : byte < 0x80) (rest : Bytes) :
    repair (byte :: rest) = byte :: repair rest := by
  rw [repair, decode_cons, first_of_ascii hbyte, encode_cons_of_ascii hbyte, repair]

-- What a wide byte is replaced by does not begin with a character of a single byte.
theorem head?_repair_of_wide {lead : UInt8} (hlead : ¬ lead < 0x80) (rest : Bytes) {byte : UInt8}
    (hbyte : byte < 0x80) : (repair (lead :: rest)).head? ≠ some byte := by
  intro hhead
  have hwide := wide_first hlead rest
  have hlt : byte.toNat < 0x80 := UInt8.lt_iff_toNat_lt.mp hbyte
  have hchar : (Char.ofNat byte.toNat).toNat = byte.toNat :=
    toNat_ofNat_of_isValid (Or.inl (by omega))
  rw [repair, decode_cons, head?_encode_iff hbyte, List.head?_cons, Option.some.injEq] at hhead
  rw [hhead, hchar] at hwide
  omega

theorem IsAscii.of_cons {byte : UInt8} {rest : Bytes} (h : IsAscii (byte :: rest)) :
    byte < 0x80 ∧ IsAscii rest :=
  List.forall_mem_cons.mp h

theorem repair_append_of_isAscii {front : Bytes} (h : IsAscii front) (rest : Bytes) :
    repair (front ++ rest) = front ++ repair rest := by
  induction front with
  | nil => rfl
  | cons byte front ih =>
    obtain ⟨hbyte, hfront⟩ := h.of_cons
    rw [List.cons_append, repair_cons_of_ascii hbyte, ih hfront, List.cons_append]

-- No repair puts characters of a single byte where there were none.
theorem exists_of_repair_eq_append {front raw rest : Bytes} (h : IsAscii front)
    (hrepair : repair raw = front ++ rest) :
    ∃ tail, raw = front ++ tail ∧ rest = repair tail := by
  induction front generalizing raw with
  | nil => exact ⟨raw, rfl, hrepair.symm⟩
  | cons byte front ih =>
    obtain ⟨hbyte, hfront⟩ := h.of_cons
    have hhead : (repair raw).head? = some byte := by rw [hrepair]; rfl
    cases raw with
    | nil =>
      rw [repair_nil] at hhead
      cases hhead
    | cons lead raw =>
      by_cases hlead : lead < 0x80
      · rw [repair_cons_of_ascii hlead, List.cons_append] at hrepair
        obtain ⟨rfl, hrest⟩ := List.cons.inj hrepair
        obtain ⟨tail, rfl, htail⟩ := ih hfront hrest
        exact ⟨tail, rfl, htail⟩
      · exact absurd hhead (head?_repair_of_wide hlead raw hbyte)

end QuadCan.Utf8
