import QuadCan.Proofs.Text.Ascii

namespace QuadCan.Hex

-- A digit and what it stands for. From ten on there are two letters for each value.
def Stands (byte : UInt8) (value : Nat) : Prop :=
  value < 10 ∧ byte.toNat = '0'.toNat + value ∨
    10 ≤ value ∧ value < 16 ∧
      (byte.toNat + 10 = 'A'.toNat + value ∨ byte.toNat + 10 = 'a'.toNat + value)

def IsDigit (byte : UInt8) : Prop :=
  ∃ value, Stands byte value

-- The number that a field of digits writes, the highest digit first.
inductive Writes : Bytes → Nat → Prop where
  | nil : Writes [] 0
  | snoc {digits : Bytes} {number value : Nat} {byte : UInt8} (hdigits : Writes digits number)
      (hbyte : Stands byte value) : Writes (digits ++ [byte]) (16 * number + value)

theorem value?_eq_some_iff {byte : UInt8} {value : Nat} :
    value? byte = some value ↔ Stands byte value := by
  have hzero : '0'.toNat = 48 := rfl
  have hupper : 'A'.toNat = 65 := rfl
  have hlower : 'a'.toNat = 97 := rfl
  simp only [value?, Stands, hzero, hupper, hlower, UInt8.le_iff_toNat_le, Bool.and_eq_true,
    decide_eq_true_eq, UInt8.reduceToNat]
  split
  next => rw [Option.some.injEq]; omega
  split
  next => rw [Option.some.injEq]; omega
  split
  next => rw [Option.some.injEq]; omega
  next => simp only [reduceCtorEq, false_iff]; omega

theorem value?_eq_none_iff {byte : UInt8} : value? byte = none ↔ ¬ IsDigit byte := by
  simp only [IsDigit, ← value?_eq_some_iff, Option.eq_none_iff_forall_ne_some, not_exists, ne_eq]

theorem Writes.lt {digits : Bytes} {number : Nat} (h : Writes digits number) :
    number < 16 ^ digits.length := by
  induction h with
  | nil => decide
  | snoc _ hbyte ih =>
    have hvalue := value?_lt (value?_eq_some_iff.mpr hbyte)
    rw [List.length_append, List.length_singleton, Nat.pow_succ]
    omega

-- No digit is lost, and more of them than a word holds push out the highest ones.
theorem field?_of_writes {digits : Bytes} {number : Nat} (h : Writes digits number) :
    field? digits = some (UInt32.ofNat number) := by
  induction h with
  | nil => rfl
  | @snoc digits number value byte _ hbyte ih =>
    rw [field?_append, ih, value?_eq_some_iff.mpr hbyte]
    simp only [Option.bind_some, Option.map_some, Option.some.injEq]
    rw [← UInt32.toNat_inj]
    simp only [UInt32.toNat_add, UInt32.toNat_mul, UInt32.toNat_ofNat', UInt32.reduceToNat]
    omega

theorem writes_of_field? {digits : Bytes} {value : UInt32} (hlength : digits.length ≤ 8)
    (h : field? digits = some value) : Writes digits value.toNat := by
  induction digits using List.reverseRecOn generalizing value with
  | nil =>
    obtain rfl : 0 = value := by simpa [field?] using h
    exact .nil
  | append_singleton digits byte ih =>
    rw [List.length_append, List.length_singleton] at hlength
    rw [field?_append, Option.bind_eq_some_iff] at h
    obtain ⟨total, htotal, h⟩ := h
    obtain ⟨last, hlast, rfl⟩ := Option.map_eq_some_iff.mp h
    have hl := value?_lt hlast
    -- seven digits leave room for one more
    have ht : total.toNat < 16 ^ 7 := Nat.lt_of_lt_of_le (field?_lt (by omega) htotal)
      (Nat.pow_le_pow_right (by decide) (by omega))
    have hsum : (total * 16 + UInt32.ofNat last).toNat = 16 * total.toNat + last := by
      simp only [UInt32.toNat_add, UInt32.toNat_mul, UInt32.toNat_ofNat', UInt32.reduceToNat]
      omega
    rw [hsum]
    exact .snoc (ih (by omega) htotal) (value?_eq_some_iff.mp hlast)

-- A field is refused just when it holds something else than digits.
theorem field?_isSome_iff {digits : Bytes} :
    (field? digits).isSome = true ↔ ∀ byte ∈ digits, IsDigit byte := by
  induction digits using List.reverseRecOn with
  | nil => exact ⟨fun _ _ hm => absurd hm List.not_mem_nil, fun _ => rfl⟩
  | append_singleton digits byte ih =>
    have hbyte : (value? byte).isSome = true ↔ IsDigit byte := by
      simp only [Option.isSome_iff_exists, IsDigit, value?_eq_some_iff]
    rw [field?_append, List.forall_mem_append, List.forall_mem_singleton, ← ih, ← hbyte]
    cases field? digits with
    | none => simp
    | some total => simp

theorem field?_eq_none {digits : Bytes} (h : ¬ ∀ byte ∈ digits, IsDigit byte) :
    field? digits = none := by
  rw [← field?_isSome_iff, Bool.not_eq_true, Option.isSome_eq_false_iff] at h
  exact Option.isNone_iff_eq_none.mp h

theorem exists_writes {digits : Bytes} (hlength : digits.length ≤ 8)
    (h : ∀ byte ∈ digits, IsDigit byte) : ∃ value : UInt32, Writes digits value.toNat := by
  obtain ⟨value, hvalue⟩ := Option.isSome_iff_exists.mp (field?_isSome_iff.mpr h)
  exact ⟨value, writes_of_field? hlength hvalue⟩

end QuadCan.Hex
