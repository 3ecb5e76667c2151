import Mathlib.Algebra.Group.Nat.Defs
import QuadCan.Text.Hex

namespace QuadCan.Hex

theorem value?_digit {value : Nat} (h : value < 16) : value? (digit value) = some value := by
  have hall : ∀ value < 16, value? (digit value) = some value := by decide
  exact hall value h

theorem length_padded (width value : Nat) : (padded width value).length = width := by
  induction width generalizing value with
  | zero => rfl
  | succ width ih => simp only [padded, List.length_append, ih, List.length_singleton]

theorem field?_append (digits : Bytes) (byte : UInt8) :
    field? (digits ++ [byte]) = (field? digits).bind fun total =>
      (value? byte).map fun value => total * 16 + UInt32.ofNat value := by
  simp [field?, List.foldlM_append]

-- Reading gives back what was written, as far as the digits reach.
theorem field?_padded {width value : Nat} (h : value < 16 ^ width) :
    field? (padded width value) = some (UInt32.ofNat value) := by
  induction width generalizing value with
  | zero =>
    obtain rfl : value = 0 := by simpa using h
    rfl
  | succ width ih =>
    rw [padded, field?_append, ih (by omega), value?_digit (by omega)]
    simp only [Option.bind_some, Option.map_some, Option.some.injEq]
    rw [← UInt32.toNat_inj]
    simp only [UInt32.toNat_add, UInt32.toNat_mul, UInt32.toNat_ofNat', UInt32.reduceToNat]
    omega

-- A value that fits the width is written in just that width.
theorem upper_eq_padded {width value : Nat} (hwidth : 0 < width) (h : value < 16 ^ width) :
    upper width value = padded width value := by
  have hlog : value.log2 < 4 * width := by
    rcases Nat.eq_zero_or_pos value with rfl | hpos
    · simpa using hwidth
    · rw [Nat.log2_lt (by omega), Nat.pow_mul]
      exact h
  unfold upper
  congr 1
  omega

theorem ofByte_eq (byte : UInt8) :
    ofByte byte = [digit (byte.toNat / 16), digit (byte.toNat % 16)] := by
  have hlt := byte.toNat_lt
  have hmod : byte.toNat / 16 % 16 = byte.toNat / 16 := by omega
  simp only [ofByte, padded, List.nil_append, List.cons_append, hmod]

theorem field?_ofByte (byte : UInt8) : field? (ofByte byte) = some (UInt32.ofNat byte.toNat) :=
  field?_padded (by have := byte.toNat_lt; omega)

end QuadCan.Hex
