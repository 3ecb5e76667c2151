import Mathlib.Algebra.Order.Group.Nat
import QuadCan.Bus.Timing

namespace QuadCan.Timing

theorem toNat_saturatingMul (a b : UInt64) :
    (saturatingMul a b).toNat = min (a.toNat * b.toNat) (2 ^ 64 - 1) := by
  rw [saturatingMul, UInt64.toNat_ofNat']
  exact Nat.mod_eq_of_lt (by omega)

-- A divisor that is cut off above the dividend leaves the quotient at zero, as it was.
theorem div_min_of_lt {dividend most : Nat} (h : dividend < most) (divisor : Nat) :
    dividend / min divisor most = dividend / divisor := by
  by_cases hdivisor : divisor ≤ most
  · rw [Nat.min_eq_left hdivisor]
  · rw [Nat.min_eq_right (by omega), Nat.div_eq_of_lt h, Nat.div_eq_of_lt (by omega)]

-- The share of a part grows with the part and shrinks with what is beside it.
theorem share_le_share {scale part rest part' rest' : Nat} (hpos : 0 < part)
    (hpart : part ≤ part') (hrest : rest' ≤ rest) :
    scale * part / (part + rest) ≤ scale * part' / (part' + rest') := by
  rw [Nat.le_div_iff_mul_le (by omega)]
  generalize hshare : scale * part / (part + rest) = share
  have hle : share * (part + rest) ≤ scale * part := hshare ▸ Nat.div_mul_le_self _ _
  have hscale : share ≤ scale := by
    rw [← hshare]
    exact Nat.div_le_of_le_mul (by rw [Nat.mul_comm]; exact Nat.mul_le_mul_right _ (by omega))
  -- what the share leaves of the scale bounds what is beside the part
  obtain ⟨left, rfl⟩ := Nat.exists_eq_add_of_le hscale
  have hbeside : share * rest ≤ left * part := by
    rw [Nat.mul_add, Nat.add_mul] at hle
    omega
  calc share * (part' + rest')
    _ = share * part' + share * rest' := Nat.mul_add _ _ _
    _ ≤ share * part' + share * rest := Nat.add_le_add_left (Nat.mul_le_mul_left _ hrest) _
    _ ≤ share * part' + left * part := Nat.add_le_add_left hbeside _
    _ ≤ share * part' + left * part' := Nat.add_le_add_left (Nat.mul_le_mul_left _ hpart) _
    _ = (share + left) * part' := (Nat.add_mul _ _ _).symm

variable (timing : Timing)

-- The quanta of a bit as a number of any size.
def width : Nat := 1 + timing.seg1.toNat + timing.seg2.toNat

theorem toNat_sampled : timing.sampled.toNat = 1 + timing.seg1.toNat := by
  have hseg1 := timing.seg1.toNat_lt
  rw [sampled, UInt64.toNat_add, UInt32.toNat_toUInt64, UInt64.toNat_one]
  omega

theorem toNat_quanta : timing.quanta.toNat = timing.width := by
  have hseg1 := timing.seg1.toNat_lt
  have hseg2 := timing.seg2.toNat_lt
  have hsampled := timing.toNat_sampled
  rw [quanta, UInt64.toNat_add, UInt32.toNat_toUInt64, ← sampled, hsampled, width]
  omega

theorem width_pos : 0 < timing.width := by
  unfold width
  omega

theorem toNat_prescaled :
    (max timing.prescaler 1).toUInt64.toNat = max timing.prescaler.toNat 1 := by
  rw [UInt32.toNat_toUInt64]
  change (if timing.prescaler ≤ 1 then 1 else timing.prescaler).toNat = _
  by_cases hprescaler : timing.prescaler ≤ 1
  · have hle : timing.prescaler.toNat ≤ 1 := UInt32.le_iff_toNat_le.mp hprescaler
    rw [if_pos hprescaler, Nat.max_eq_right hle]
    rfl
  · have hlt : ¬ timing.prescaler.toNat ≤ 1 :=
      fun hle => hprescaler (UInt32.le_iff_toNat_le.mpr hle)
    rw [if_neg hprescaler, Nat.max_eq_left (by omega)]

-- The clock periods of a bit, as far as a word can hold them.
def divisor : UInt64 := saturatingMul (max timing.prescaler 1).toUInt64 timing.quanta

theorem toNat_divisor :
    timing.divisor.toNat = min (max timing.prescaler.toNat 1 * timing.width) (2 ^ 64 - 1) := by
  rw [divisor, toNat_saturatingMul, toNat_prescaled, toNat_quanta]

theorem divisor_pos : 0 < timing.divisor.toNat := by
  have hperiods : 0 < max timing.prescaler.toNat 1 * timing.width :=
    Nat.mul_pos (by omega) timing.width_pos
  rw [toNat_divisor]
  omega

theorem hertz_lt : timing.clockMegahertz.toNat * 1000000 < 2 ^ 64 - 1 := by
  have hclock := timing.clockMegahertz.toNat_lt
  omega

theorem toNat_hertz : (timing.clockMegahertz.toUInt64 * 1000000).toNat =
    timing.clockMegahertz.toNat * 1000000 := by
  have hmega : (1000000 : UInt64).toNat = 1000000 := rfl
  rw [UInt64.toNat_mul, UInt32.toNat_toUInt64, hmega]
  exact Nat.mod_eq_of_lt (Nat.lt_of_lt_of_le timing.hertz_lt (by decide))

theorem toNat_quotient : (timing.clockMegahertz.toUInt64 * 1000000 / timing.divisor).toNat =
    timing.clockMegahertz.toNat * 1000000 / (max timing.prescaler.toNat 1 * timing.width) := by
  rw [UInt64.toNat_div, toNat_hertz, toNat_divisor, div_min_of_lt timing.hertz_lt]

theorem toNat_bitrate : timing.bitrate.toNat = min (2 ^ 32 - 1)
    (timing.clockMegahertz.toNat * 1000000 / (max timing.prescaler.toNat 1 * timing.width)) := by
  rw [bitrate, UInt32.toNat_ofNat', ← divisor, toNat_quotient, Nat.min_comm]
  exact Nat.mod_eq_of_lt (by omega)

theorem toNat_thousandths : (timing.sampled * 1000).toNat = 1000 * (1 + timing.seg1.toNat) := by
  have hseg1 := timing.seg1.toNat_lt
  have hthousand : (1000 : UInt64).toNat = 1000 := rfl
  rw [UInt64.toNat_mul, toNat_sampled, hthousand]
  omega

theorem toNat_share : (timing.sampled * 1000 / timing.quanta).toNat =
    1000 * (1 + timing.seg1.toNat) / timing.width := by
  rw [UInt64.toNat_div, toNat_thousandths, toNat_quanta]

theorem share_le : 1000 * (1 + timing.seg1.toNat) / timing.width ≤ 1000 :=
  Nat.div_le_of_le_mul (by rw [Nat.mul_comm]; unfold width; omega)

theorem toNat_samplePoint :
    timing.samplePoint.toNat = 1000 * (1 + timing.seg1.toNat) / timing.width := by
  rw [samplePoint, UInt64.toNat_toUInt32, toNat_share]
  exact Nat.mod_eq_of_lt (Nat.lt_of_le_of_lt timing.share_le (by decide))

-- The sample point is at the end of the bit just when nothing comes after it.
theorem samplePoint_eq_iff : timing.samplePoint.toNat = 1000 ↔ timing.seg2 = 0 := by
  rw [toNat_samplePoint, ← UInt32.toNat_inj]
  change _ ↔ timing.seg2.toNat = 0
  have hle := timing.share_le
  have hpos := timing.width_pos
  have hreach : 1000 ≤ 1000 * (1 + timing.seg1.toNat) / timing.width ↔
      1000 * timing.width ≤ 1000 * (1 + timing.seg1.toNat) := Nat.le_div_iff_mul_le hpos
  unfold width at hreach hle ⊢
  omega

variable {timing} {other : Timing}

-- More periods to a bit do not make more bits.
theorem bitrate_le_bitrate (hclock : other.clockMegahertz = timing.clockMegahertz)
    (hprescaler : timing.prescaler ≤ other.prescaler) (hseg1 : timing.seg1 ≤ other.seg1)
    (hseg2 : timing.seg2 ≤ other.seg2) : other.bitrate ≤ timing.bitrate := by
  rw [UInt32.le_iff_toNat_le] at hprescaler hseg1 hseg2 ⊢
  have hwidth : timing.width ≤ other.width := by
    unfold width
    omega
  have hperiods : max timing.prescaler.toNat 1 * timing.width ≤
      max other.prescaler.toNat 1 * other.width := Nat.mul_le_mul (by omega) hwidth
  have hpos : 0 < max timing.prescaler.toNat 1 * timing.width :=
    Nat.mul_pos (by omega) timing.width_pos
  have hquotient : timing.clockMegahertz.toNat * 1000000 /
        (max other.prescaler.toNat 1 * other.width) ≤
      timing.clockMegahertz.toNat * 1000000 / (max timing.prescaler.toNat 1 * timing.width) :=
    Nat.div_le_div_left hperiods hpos
  rw [toNat_bitrate, toNat_bitrate, hclock]
  exact min_le_min_left _ hquotient

theorem samplePoint_le_samplePoint (hseg1 : timing.seg1 ≤ other.seg1)
    (hseg2 : other.seg2 ≤ timing.seg2) : timing.samplePoint ≤ other.samplePoint := by
  rw [UInt32.le_iff_toNat_le] at hseg1 hseg2 ⊢
  rw [toNat_samplePoint, toNat_samplePoint, width, width]
  exact share_le_share (by omega) (by omega) hseg2

-- The registers and what is computed from them. Each word on the way holds the number that it
-- stands for, no divisor is zero, and the only product that may be cut off gives the quotient
-- that it would give in full.
structure Exact (timing : Timing) : Prop where
  sampled : timing.sampled.toNat = 1 + timing.seg1.toNat
  quanta : timing.quanta.toNat = timing.width
  hertz : (timing.clockMegahertz.toUInt64 * 1000000).toNat =
    timing.clockMegahertz.toNat * 1000000
  thousandths : (timing.sampled * 1000).toNat = 1000 * (1 + timing.seg1.toNat)
  divisors : 0 < timing.divisor.toNat ∧ 0 < timing.quanta.toNat
  quotient : (timing.clockMegahertz.toUInt64 * 1000000 / timing.divisor).toNat =
    timing.clockMegahertz.toNat * 1000000 / (max timing.prescaler.toNat 1 * timing.width)
  bitrate : timing.bitrate.toNat = min (2 ^ 32 - 1)
    (timing.clockMegahertz.toNat * 1000000 / (max timing.prescaler.toNat 1 * timing.width))
  samplePoint : timing.samplePoint.toNat = 1000 * (1 + timing.seg1.toNat) / timing.width
  cast : timing.samplePoint.toNat = (timing.sampled * 1000 / timing.quanta).toNat
  samplePoint_le : timing.samplePoint ≤ 1000
  samplePoint_eq : timing.samplePoint = 1000 ↔ timing.seg2 = 0
  bitrate_antitone : ∀ other : Timing, other.clockMegahertz = timing.clockMegahertz →
    timing.prescaler ≤ other.prescaler → timing.seg1 ≤ other.seg1 →
      timing.seg2 ≤ other.seg2 → other.bitrate ≤ timing.bitrate
  samplePoint_mono : ∀ other : Timing, timing.seg1 ≤ other.seg1 →
    other.seg2 ≤ timing.seg2 → timing.samplePoint ≤ other.samplePoint

-- All of this holds for all registers, also where a bit has more clock periods than a word holds.
theorem registers_exact (timing : Timing) : timing.Exact where
  sampled := timing.toNat_sampled
  quanta := timing.toNat_quanta
  hertz := timing.toNat_hertz
  thousandths := timing.toNat_thousandths
  divisors := ⟨timing.divisor_pos, timing.toNat_quanta ▸ timing.width_pos⟩
  quotient := timing.toNat_quotient
  bitrate := timing.toNat_bitrate
  samplePoint := timing.toNat_samplePoint
  cast := timing.toNat_samplePoint.trans timing.toNat_share.symm
  samplePoint_le := UInt32.le_iff_toNat_le.mpr (timing.toNat_samplePoint ▸ timing.share_le)
  samplePoint_eq := by
    rw [← samplePoint_eq_iff, ← UInt32.toNat_inj]
    rfl
  bitrate_antitone _ := bitrate_le_bitrate
  samplePoint_mono _ := samplePoint_le_samplePoint

example :
    let timing : Timing := ⟨0xFFFFFFFF, 0xFFFFFFFF, 0xFFFFFFFF, 0xFFFFFFFF, 1, false⟩
    timing.divisor = 0xFFFFFFFFFFFFFFFF ∧ timing.bitrate = 0 ∧ timing.samplePoint = 500 := by
  decide

end QuadCan.Timing
