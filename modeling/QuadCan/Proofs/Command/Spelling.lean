import Mathlib.Data.List.Basic
import QuadCan.Command
import QuadCan.Proofs.Frame.Line
import QuadCan.Proofs.Text.Decimal

namespace QuadCan

namespace Setting

theorem letter_injective : Function.Injective letter := by
  intro first second
  cases first <;> cases second <;> decide

theorem isWordByte_letter (setting : Setting) : IsWordByte setting.letter := by
  cases setting <;> decide

-- A line that begins with the letter of a setting is not a frame.
theorem ofLetter?_letter (setting : Setting) : Form.ofLetter? setting.letter = none := by
  cases setting <;> decide

end Setting

-- A run of bytes that are all word bytes.
def IsWord (bytes : Bytes) : Prop :=
  ∀ byte ∈ bytes, IsWordByte byte

theorem IsWord.delimiter_notMem {bytes : Bytes} (h : IsWord bytes) :
    Command.delimiter ∉ bytes := by
  intro hm
  have hword := h _ hm
  revert hword
  decide

theorem isWord_cons {byte : UInt8} {bytes : Bytes} (hbyte : IsWordByte byte)
    (hbytes : IsWord bytes) : IsWord (byte :: bytes) :=
  List.forall_mem_cons.mpr ⟨hbyte, hbytes⟩

theorem isWord_intercalate {separator : UInt8} {words : List Bytes}
    (hseparator : IsWordByte separator) (hwords : ∀ word ∈ words, IsWord word) :
    IsWord ([separator].intercalate words) := by
  induction words with
  | nil => exact fun _ hm => absurd hm List.not_mem_nil
  | cons word words ih =>
    obtain ⟨hword, hrest⟩ := List.forall_mem_cons.mp hwords
    cases words with
    | nil =>
      rw [List.intercalate_singleton]
      exact hword
    | cons next words =>
      rw [List.intercalate_cons_cons, List.append_assoc]
      exact List.forall_mem_append.mpr ⟨hword, isWord_cons hseparator (ih hrest)⟩

theorem Decimal.isWord_digits (value : Nat) : IsWord (Decimal.digits value) :=
  fun _ hm => (Decimal.isDigit_of_mem_digits hm).isWordByte

namespace Timing

theorem separator_notMem_digits (value : Nat) : '_'.toUInt8 ∉ Decimal.digits value := by
  intro hm
  have hdigit := (Decimal.isDigit_of_mem_digits hm).2
  revert hdigit
  decide

-- Cut at the separators, the fields are the registers one by one.
theorem splitOn_fields (timing : Timing) :
    timing.fields.splitOn '_'.toUInt8 = timing.registers.map Decimal.digits := by
  rw [fields, List.splitOn_intercalate]
  · intro digits hm
    obtain ⟨value, -, rfl⟩ := List.mem_map.mp hm
    exact separator_notMem_digits value
  · exact List.cons_ne_nil _ _

theorem registers_injective : Function.Injective registers := by
  intro first second h
  obtain ⟨clock, prescaler, seg1, seg2, sjw, tdc⟩ := first
  obtain ⟨clock', prescaler', seg1', seg2', sjw', tdc'⟩ := second
  simp only [registers, List.cons.injEq, UInt32.toNat_inj, and_true] at h
  obtain ⟨rfl, rfl, rfl, rfl, rfl, htdc⟩ := h
  obtain rfl : tdc = tdc' := by
    revert htdc
    cases tdc <;> cases tdc' <;> decide
  rfl

theorem fields_injective : Function.Injective fields := by
  intro first second h
  have hdigits : first.registers.map Decimal.digits = second.registers.map Decimal.digits := by
    rw [← splitOn_fields, h, splitOn_fields]
  exact registers_injective (List.map_injective_iff.mpr Decimal.digits_injective hdigits)

theorem isWord_fields (timing : Timing) : IsWord timing.fields := by
  refine isWord_intercalate (by decide) ?_
  intro digits hm
  obtain ⟨value, -, rfl⟩ := List.mem_map.mp hm
  exact Decimal.isWord_digits value

end Timing

theorem Frame.isWord_body (frame : Frame) : IsWord frame.body :=
  fun _ hm => isWordByte_of_mem_body hm

-- The bodies of commands that are words, unless they are refused.
def Wordy (result : Except Fault (List Bytes)) : Prop :=
  ∀ bodies, result = .ok bodies → ∀ body ∈ bodies, IsWord body

theorem wordy_one {word : Bytes} (h : IsWord word) : Wordy (.ok [word]) := by
  intro bodies hbodies body hm
  cases hbodies
  rw [List.mem_singleton.mp hm]
  exact h

theorem wordy_map {word : α → Bytes} (result : Except Fault α)
    (h : ∀ value, IsWord (word value)) : Wordy (result.map fun value => [word value]) := by
  cases result with
  | error fault => exact fun _ hbodies => by cases hbodies
  | ok value => exact wordy_one (h value)

theorem wordy_append {first second : Except Fault (List Bytes)} (hfirst : Wordy first)
    (hsecond : Wordy second) :
    Wordy (do let bodies ← first; let others ← second; return bodies ++ others) := by
  intro all hall body hm
  cases first with
  | error fault => cases hall
  | ok bodies =>
    cases second with
    | error fault => cases hall
    | ok others =>
      cases hall
      rcases List.mem_append.mp hm with hm | hm
      · exact hfirst bodies rfl body hm
      · exact hsecond others rfl body hm

namespace Operation

-- The text that a call passes on as it is.
def text? : Operation → Option String
  | setCustomTiming literal => some literal
  | sendRaw text => some text
  | _ => none

theorem isWord_numbered (setting : Setting) (value : Nat) : IsWord (numbered setting value) :=
  isWord_cons setting.isWordByte_letter (Decimal.isWord_digits value)

private theorem wordy_phase (setting : Setting) (permille : Option UInt16) :
    Wordy (SamplePoint.phase setting permille) := by
  cases permille with
  | none =>
    intro bodies hbodies body hm
    cases hbodies
    exact absurd hm List.not_mem_nil
  | some permille => exact wordy_map _ fun value => isWord_numbered setting value.toNat

private theorem isWord_letter (setting : Setting) : IsWord [setting.letter] :=
  isWord_cons setting.isWordByte_letter fun _ hm => absurd hm List.not_mem_nil

private theorem isWord_literal (setting : Setting) (timing : Timing) :
    IsWord (setting.letter :: timing.fields) :=
  isWord_cons setting.isWordByte_letter timing.isWord_fields

-- Apart from the text of a caller, commands are written in letters, digits and separators.
theorem wordy_bodies {operation : Operation} (htext : operation.text? = none) :
    Wordy operation.bodies := by
  cases operation with
  | openBus => exact wordy_one (isWord_letter .onBus)
  | closeBus => exact wordy_one (isWord_letter .offBus)
  | setRate index => exact wordy_one (isWord_numbered .rate index.toNat)
  | setBitrate bitrate => exact wordy_one (isWord_numbered .bitrate bitrate.toNat)
  | setFdRate index => exact wordy_one (isWord_numbered .fdRate index.toNat)
  | setNominalBitrate bitrate =>
    simp only [bodies]
    split
    next index _ => exact wordy_one (isWord_numbered .rate index)
    next => exact wordy_one (isWord_numbered .bitrate bitrate.toNat)
  | setDataBitrate bitrate =>
    exact wordy_map _ fun index => isWord_numbered .fdRate index.toNat
  | setSamplePoint point => exact wordy_append (wordy_phase _ _) (wordy_phase _ _)
  | setNominalTiming timing => exact wordy_one (isWord_literal .nominalTiming timing)
  | setDataTiming timing => exact wordy_one (isWord_literal .dataTiming timing)
  | setListenOnly enabled => exact wordy_one (isWord_numbered .listenOnly enabled.toNat)
  | send frame => exact wordy_one frame.isWord_body
  | setCustomTiming => cases htext
  | sendRaw => cases htext

end Operation

end QuadCan
