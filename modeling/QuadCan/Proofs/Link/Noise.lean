import QuadCan.Proofs.Frame.Canonical
import QuadCan.Proofs.Line.Kinds
import QuadCan.Proofs.Line.Lines
import QuadCan.Proofs.Link.Splitting
import QuadCan.Proofs.Text.Repair

namespace QuadCan

open Utf8 (repair IsAscii)

-- Routing looks at the first byte only, and that stays what it is or becomes no digit either.
theorem route_repair (raw : Bytes) :
    route (repair raw) = ((route raw).1, repair (route raw).2) := by
  cases raw with
  | nil => rw [Utf8.repair_nil, route, Utf8.repair_nil]
  | cons byte rest =>
    cases hbyte : Channel.ofDigit? byte with
    | some channel =>
      have hlt : byte < 0x80 := by
        rw [Channel.eq_digit_of_ofDigit? hbyte]
        exact channel.digit_lt
      rw [Utf8.repair_cons_of_ascii hlt, route, route, hbyte]
    | none =>
      have hroute : route (byte :: rest) = (Channel.unnamed, byte :: rest) := by rw [route, hbyte]
      rw [hroute]
      cases hline : repair (byte :: rest) with
      | nil => rfl
      | cons head tail =>
        have hhead : Channel.ofDigit? head = none := by
          by_cases hlt : byte < 0x80
          · rw [Utf8.repair_cons_of_ascii hlt] at hline
            rwa [← (List.cons.inj hline).1]
          · refine Option.eq_none_iff_forall_ne_some.mpr fun channel hchannel => ?_
            refine Utf8.head?_repair_of_wide hlt rest channel.digit_lt ?_
            rw [hline, List.head?_cons, Channel.eq_digit_of_ofDigit? hchannel]
        rw [route, hhead]

-- What can stand in front of a frame: the digit of a channel, or nothing for the first one.
inductive Addresses : Bytes → Channel → Prop where
  | named (channel : Channel) : Addresses [UInt8.ofNat ('0'.toNat + channel.val)] channel
  | unnamed : Addresses [] 0

theorem Addresses.isAscii {address : Bytes} {channel : Channel} (h : Addresses address channel) :
    IsAscii address := by
  cases h with
  | named => exact List.forall_mem_singleton.mpr channel.digit_lt
  | unnamed => exact nofun

theorem exists_address (raw : Bytes) :
    ∃ address, Addresses address (route raw).1 ∧ raw = address ++ (route raw).2 := by
  cases raw with
  | nil => exact ⟨[], .unnamed, rfl⟩
  | cons byte rest =>
    cases hbyte : Channel.ofDigit? byte with
    | some channel =>
      rw [route, hbyte, Channel.eq_digit_of_ofDigit? hbyte]
      exact ⟨_, .named channel, rfl⟩
    | none =>
      rw [route, hbyte]
      exact ⟨[], .unnamed, rfl⟩

namespace Hex

theorem IsDigit.lt {byte : UInt8} (h : IsDigit byte) : byte < 0x80 := by
  obtain ⟨value, hstands⟩ := h
  have hzero : '0'.toNat = 48 := rfl
  have hupper : 'A'.toNat = 65 := rfl
  have hlower : 'a'.toNat = 97 := rfl
  simp only [Stands, hzero, hupper, hlower] at hstands
  rw [UInt8.lt_iff_toNat_lt]
  simp only [UInt8.reduceToNat]
  omega

theorem Writes.isAscii {digits : Bytes} {number : Nat} (h : Writes digits number) :
    IsAscii digits := by
  have hdigits := field?_isSome_iff.mp (by rw [field?_of_writes h]; rfl)
  exact fun byte hm => (hdigits byte hm).lt

theorem WritesAll.isAscii {digits data : Bytes} (h : WritesAll digits data) :
    IsAscii digits := by
  induction h with
  | nil => exact nofun
  | cons hbyte _ ih =>
    exact List.forall_mem_append.mpr ⟨hbyte.isAscii, ih⟩

end Hex

namespace Frame

variable {parts other : Parts} {frame read : Frame} {address : Bytes} {channel : Channel}

-- A letter is no digit, so that a line is cut after the address.
theorem route_front_append (h : Addresses address channel) (parts : Parts) (rest : Bytes) :
    route (address ++ (parts.front ++ rest)) = (channel, parts.front ++ rest) := by
  cases h with
  | named =>
    have hdigit : Channel.ofDigit? (UInt8.ofNat ('0'.toNat + channel.val)) = some channel :=
      Channel.ofDigit?_digit channel
    rw [List.singleton_append, route, hdigit]
  | unnamed =>
    have hletter (form : Form) : Channel.ofDigit? form.letter = none := by
      obtain ⟨kind, extended⟩ := form
      cases kind <;> cases extended <;> decide
    rw [List.nil_append, Parts.front, List.cons_append, route, hletter]
    rfl

theorem isAscii_front (h : parts.Spells frame) : IsAscii parts.front := by
  obtain ⟨value, hcode, -⟩ := h.code
  have hpayload : IsAscii parts.payload := by
    by_cases hkind : parts.form.kind = .remote
    · rw [(h.request hkind).1]
      exact nofun
    · exact (h.carries hkind).2.isAscii
  refine List.forall_mem_cons.mpr ⟨parts.form.isWordByte_letter.lt, ?_⟩
  refine List.forall_mem_append.mpr ⟨h.id.isAscii, ?_⟩
  exact List.forall_mem_cons.mpr ⟨Hex.IsDigit.lt ⟨value, hcode⟩, hpayload⟩

-- A line is read as a frame for what its bytes were before the repair.
theorem parse_repair_iff (raw : Bytes) (frame : Frame) :
    parse (repair raw) = .ok frame ↔
      ∃ parts : Parts, parts.line = raw ∧ parts.Spells frame := by
  constructor
  · intro h
    rw [← Utf8.ofString_text] at h
    obtain ⟨parts, hline, hspells⟩ := exists_parts_of_parse h
    rw [Utf8.ofString_text, Parts.line_eq] at hline
    obtain ⟨tail, rfl, -⟩ := Utf8.exists_of_repair_eq_append (isAscii_front hspells) hline.symm
    exact ⟨{ parts with rest := tail }, Parts.line_eq _, hspells.with_rest tail⟩
  · rintro ⟨parts, rfl, hspells⟩
    rw [Parts.line_eq, Utf8.repair_append_of_isAscii (isAscii_front hspells)]
    exact parse_front_append hspells _

-- The channel and the frame that a line is taken for.
def read? (line : Bytes) : Option (Channel × Frame) :=
  (parse? (route line).2).map ((route line).1, ·)

theorem read?_eq_some_iff {line : Bytes} :
    read? line = some (channel, frame) ↔
      (route line).1 = channel ∧ parse (route line).2 = .ok frame := by
  rw [read?, parse?]
  cases parse (route line).2 with
  | ok other => simp [Except.toOption]
  | error cause => simp [Except.toOption]

-- A line as its bytes came in: whom it addresses, and a frame for them.
def Denotes (raw : Bytes) (channel : Channel) (frame : Frame) : Prop :=
  ∃ (address : Bytes) (parts : Parts),
    raw = address ++ parts.line ∧ Addresses address channel ∧ parts.Spells frame

theorem read?_repair_iff (raw : Bytes) :
    read? (repair raw) = some (channel, frame) ↔ Denotes raw channel frame := by
  rw [read?_eq_some_iff, route_repair, parse_repair_iff]
  constructor
  · rintro ⟨rfl, parts, hline, hspells⟩
    obtain ⟨address, haddress, hraw⟩ := exists_address raw
    exact ⟨address, parts, by rwa [hline], haddress, hspells⟩
  · rintro ⟨address, parts, rfl, haddress, hspells⟩
    rw [Parts.line_eq, route_front_append haddress, ← Parts.line_eq]
    exact ⟨rfl, parts, rfl, hspells⟩

-- The parts of a line that is read are not those of a shorter one.
theorem eq_nil_of_front_eq {more : Bytes} (h : parts.Spells frame) (hother : other.Spells read)
    (hfront : parts.front = other.front ++ more) : more = [] := by
  have hparse := parse_front_append h []
  rw [List.append_nil, hfront, parse_front_append hother] at hparse
  obtain rfl : read = frame := Except.ok.inj hparse
  have hlength := congrArg List.length hfront
  rw [List.length_append, length_front h, length_front hother] at hlength
  exact List.eq_nil_of_length_eq_zero (by omega)

-- A wide byte does no harm after the payload, and before its end nothing makes up for it.
theorem read?_repair_of_wide (haddress : Addresses address channel) (hspells : parts.Spells frame)
    (count : Nat) {wide : UInt8} (hwide : ¬ wide < 0x80) (rest : Bytes) :
    read? (repair ((address ++ parts.front).take count ++ wide :: rest)) =
      if count < (address ++ parts.front).length then none else some (channel, frame) := by
  split
  next hcount =>
    refine Option.eq_none_iff_forall_ne_some.mpr fun ⟨receiver, read⟩ hread => ?_
    obtain ⟨address', other, hraw, haddress', hother⟩ := (read?_repair_iff _).mp hread
    have hascii : wide ∉ address' ++ other.front := by
      intro hm
      rcases List.mem_append.mp hm with hm | hm
      · exact hwide (haddress'.isAscii wide hm)
      · exact hwide (isAscii_front hother wide hm)
    rw [Parts.line_eq, ← List.append_assoc] at hraw
    obtain ⟨tail, htake, -⟩ := append_eq_line hascii hraw.symm
    have hcut := List.take_append_drop count (address ++ parts.front)
    rw [htake, List.append_assoc, List.append_assoc] at hcut
    have hroute := route_front_append haddress parts []
    rw [List.append_nil, ← hcut, route_front_append haddress'] at hroute
    have hnil := eq_nil_of_front_eq hspells hother (congrArg Prod.snd hroute).symm
    have hdrop := (List.append_eq_nil_iff.mp hnil).2
    exact absurd (List.drop_eq_nil_iff.mp hdrop) (Nat.not_le_of_lt hcount)
  next hcount =>
    rw [List.take_of_length_le (Nat.le_of_not_lt hcount), read?_repair_iff]
    refine ⟨address, { parts with rest := wide :: rest }, ?_, haddress, hspells.with_rest _⟩
    rw [Parts.line_eq, List.append_assoc]
    rfl

end Frame

namespace Link

-- A port answers with a line only for the bytes up to the next delimiter.
theorem line_of_next {splitter : Splitter} {reads : List Read} {raw more text : Bytes}
    (hraw : Command.delimiter ∉ raw) (hkept : Splitter.Kept splitter.pending)
    (hahead : splitter.ahead reads = raw ++ Command.delimiter :: more)
    (hnext : (port splitter reads).next.1 = some (.line text)) : text = repair raw := by
  rcases Splitter.answers splitter (Read.cut reads) hkept with
    hstarves | ⟨turn, next, rest, hcall⟩
  · rw [next_of_starves hstarves] at hnext
    cases hnext
  · rw [next_of_call hcall] at hnext
    cases turn with
    | line bytes =>
      have hcontent : Command.delimiter ∉ bytes := hcall.content
      have hbytes := hcall.ahead_eq
      rw [Splitter.ahead, Read.stream_cut, ← Splitter.ahead, hahead, Splitter.Turn.bytes,
        List.append_assoc, List.singleton_append] at hbytes
      obtain ⟨tail, rfl, htail⟩ := append_eq_line hraw hbytes
      cases tail with
      | nil =>
        cases hnext
        exact congrArg repair (List.append_nil raw)
      | cons byte tail =>
        obtain ⟨rfl, -⟩ := List.cons.inj htail
        exact absurd (List.mem_append_right _ List.mem_cons_self) hcontent
    | discarded => cases hnext
    | failed => cases hnext

-- Bytes that are no text neither make up a frame nor take one away. The line that a port answers
-- with may be longer than the bytes that came in, but it is read as a frame just when these bytes
-- spell it. A wide byte makes the line fail wherever it stands before the end of the payload.
theorem read?_repair_iff_denotes {raw : Bytes} (hraw : Command.delimiter ∉ raw) :
    (∀ (splitter : Splitter) (reads : List Read) (more text : Bytes),
      Splitter.Kept splitter.pending → splitter.ahead reads = raw ++ Command.delimiter :: more →
      (port splitter reads).next.1 = some (.line text) → text = repair raw) ∧
    (∀ channel frame,
      Frame.read? (repair raw) = some (channel, frame) ↔ Frame.Denotes raw channel frame) ∧
    ∀ (address : Bytes) (parts : Frame.Parts) (channel : Channel) (frame : Frame) (count : Nat)
      (wide : UInt8) (rest : Bytes), Addresses address channel → parts.Spells frame →
      ¬ wide < 0x80 → raw = (address ++ parts.front).take count ++ wide :: rest →
      Frame.read? (repair raw) =
        if count < (address ++ parts.front).length then none else some (channel, frame) := by
  refine ⟨fun _ _ _ _ hkept hahead hnext => line_of_next hraw hkept hahead hnext,
    fun _ _ => Frame.read?_repair_iff raw, ?_⟩
  rintro address parts channel frame count wide rest haddress hspells hwide rfl
  exact Frame.read?_repair_of_wide haddress hspells count hwide rest

-- A character that breaks off and a byte that begins none stand behind a payload.
theorem read?_repair_iff_denotes_noise :
    let raw : Bytes := Utf8.ofString "1t12321A2b" ++ [0xE2, 0x82, 0xFF]
    let text : Bytes := Utf8.ofString "1t12321A2b\uFFFD\uFFFD"
    let link : Link := port {} [.data (raw ++ [Command.delimiter])]
    Command.delimiter ∉ raw ∧ link.next.1 = some (.line text) ∧ text = repair raw ∧
      Frame.Denotes raw 1 (.ofData 0x123 [0x1A, 0x2B]) := by
  intro raw text link
  have hraw : Command.delimiter ∉ raw := by decide
  have hnext : link.next.1 = some (.line text) := by decide +kernel
  have hread : Frame.read? (repair raw) = some (1, .ofData 0x123 [0x1A, 0x2B]) := by decide +kernel
  obtain ⟨hline, hdenotes, -⟩ := read?_repair_iff_denotes hraw
  exact ⟨hraw, hnext, hline {} _ [] text Splitter.kept_nil rfl hnext, (hdenotes _ _).mp hread⟩

end Link

end QuadCan
