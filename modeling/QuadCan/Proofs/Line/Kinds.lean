import QuadCan.Proofs.Frame.Grammar

namespace QuadCan

-- The characters of a line as they are shared out: the digit of a channel stands in front of what
-- is for that channel, and a line without one is for the first channel as a whole.
inductive Routes : List Char → Channel → List Char → Prop where
  | named (channel : Channel) (rest : List Char) :
      Routes (Nat.digitChar channel.val :: rest) channel rest
  | unnamed {text : List Char}
      (htext : ∀ channel : Channel, text.head? ≠ some (Nat.digitChar channel.val)) :
      Routes text 0 text

namespace Channel

-- The digit of a channel as a byte and as a character.
theorem digitChar_val (channel : Channel) :
    Nat.digitChar channel.val = Char.ofNat (UInt8.ofNat (48 + channel.val)).toNat := by
  revert channel
  decide

theorem digit_lt (channel : Channel) : UInt8.ofNat (48 + channel.val) < 0x80 := by
  revert channel
  decide

theorem eq_digit_of_ofDigit? {byte : UInt8} {channel : Channel}
    (h : ofDigit? byte = some channel) : byte = UInt8.ofNat (48 + channel.val) := by
  unfold ofDigit? at h
  split at h
  next hrange =>
    cases h
    have hsum : 48 + (byte.toNat - 48) = byte.toNat := by omega
    rw [hsum, UInt8.ofNat_toNat]
  next => cases h

end Channel

-- A line is cut between characters, or not at all.
theorem route_of_routes {text rest : List Char} {channel : Channel}
    (h : Routes text channel rest) : route (Utf8.encode text) = (channel, Utf8.encode rest) := by
  cases h with
  | named =>
    rw [Channel.digitChar_val, Utf8.encode_cons_of_ascii channel.digit_lt, route,
      Channel.ofDigit?_digit]
  | unnamed htext =>
    cases hline : Utf8.encode text with
    | nil => rfl
    | cons byte line =>
      cases hchannel : Channel.ofDigit? byte with
      | none => rw [route, hchannel]; rfl
      | some channel =>
        have hhead : (Utf8.encode text).head? = some (UInt8.ofNat (48 + channel.val)) := by
          rw [hline, List.head?_cons, Channel.eq_digit_of_ofDigit? hchannel]
        rw [Utf8.head?_encode_iff channel.digit_lt, ← Channel.digitChar_val] at hhead
        exact absurd hhead (htext channel)

theorem exists_routes (text : List Char) : ∃ channel rest, Routes text channel rest := by
  by_cases htext : ∃ channel : Channel, text.head? = some (Nat.digitChar channel.val)
  · obtain ⟨channel, hhead⟩ := htext
    obtain ⟨rest, rfl⟩ := List.head?_eq_some_iff.mp hhead
    exact ⟨channel, rest, .named channel rest⟩
  · exact ⟨0, text, .unnamed (not_exists.mp htext)⟩

-- What a line is counted as.
inductive LineKind where
  | empty
  | frame
  | noise
  | damaged
deriving DecidableEq, Repr

namespace LineKind

-- The kind of a line with something on it, from how that was read.
def ofResult : Except DecodeError Frame → LineKind
  | .ok _ => .frame
  | .error cause => if cause.isNoise then .noise else .damaged

def of (line : Bytes) : LineKind :=
  match line with
  | [] => .empty
  | _ :: _ => ofResult (Frame.parse (route line).2)

-- The characters that a frame can begin with.
def letters : List Char := ['t', 'T', 'r', 'R', 'd', 'D', 'b', 'B']

-- The kinds of lines in terms of their characters. Of the characters after the channel, the first
-- one tells a damaged frame from what was never meant to be one.
inductive Fits (text : List Char) : LineKind → Prop where
  | empty (htext : text = []) : Fits text .empty
  | frame {channel : Channel} {rest : List Char} {frame : Frame} (htext : text ≠ [])
      (hroutes : Routes text channel rest) (hparse : Frame.parse (Utf8.encode rest) = .ok frame) :
      Fits text .frame
  | noise {channel : Channel} {rest : List Char} (htext : text ≠ [])
      (hroutes : Routes text channel rest)
      (hletter : ∀ letter ∈ letters, rest.head? ≠ some letter) : Fits text .noise
  | damaged {channel : Channel} {rest : List Char} {letter : Char} (htext : text ≠ [])
      (hroutes : Routes text channel rest) (hletter : letter ∈ letters)
      (hhead : rest.head? = some letter)
      (hparse : ∀ frame, Frame.parse (Utf8.encode rest) ≠ .ok frame) : Fits text .damaged

theorem mem_letters_iff (char : Char) :
    char ∈ letters ↔ ∃ form : Form, Char.ofNat form.letter.toNat = char := by
  have hletters : letters = Form.all.map fun form => Char.ofNat form.letter.toNat := by decide
  have hall (form : Form) : form ∈ Form.all := by
    obtain ⟨kind, extended⟩ := form
    cases kind <;> cases extended <;> decide
  rw [hletters, List.mem_map]
  constructor
  · rintro ⟨form, -, hform⟩
    exact ⟨form, hform⟩
  · rintro ⟨form, hform⟩
    exact ⟨form, hall form, hform⟩

-- A text begins with a letter of a frame just when its bytes do.
theorem head?_letters_iff (text : List Char) :
    (∀ letter ∈ letters, text.head? ≠ some letter) ↔
      ∀ form : Form, (Utf8.encode text).head? ≠ some form.letter := by
  have hlt (form : Form) : form.letter < 0x80 := form.isWordByte_letter.lt
  constructor
  · intro hnone form hhead
    rw [Utf8.head?_encode_iff (hlt form)] at hhead
    exact hnone _ ((mem_letters_iff _).mpr ⟨form, rfl⟩) hhead
  · intro hnone letter hm hhead
    obtain ⟨form, rfl⟩ := (mem_letters_iff letter).mp hm
    exact hnone form ((Utf8.head?_encode_iff (hlt form) text).mpr hhead)

-- The causes that are told apart go by the first byte alone.
theorem isNoise_iff_of_breaks {text : String} {cause : DecodeError}
    (h : Frame.Breaks text cause) :
    cause.isNoise = true ↔ ∀ form : Form, (Utf8.ofString text).head? ≠ some form.letter := by
  cases h with
  | empty hline => simp [DecodeError.isNoise, hline]
  | letter _ hletter => exact iff_of_true rfl hletter
  | head hline | id hline | code hline | payload hline | pair hline =>
    refine iff_of_false nofun fun hnone => ?_
    rw [hline] at hnone
    exact hnone _ rfl

theorem ofResult_ne_empty (result : Except DecodeError Frame) : ofResult result ≠ .empty := by
  cases result with
  | ok frame => simp [ofResult]
  | error cause => by_cases hcause : cause.isNoise <;> simp [ofResult, hcause]

theorem ofResult_eq_frame_iff (result : Except DecodeError Frame) :
    ofResult result = .frame ↔ ∃ frame, result = .ok frame := by
  cases result with
  | ok frame => simp [ofResult]
  | error cause => by_cases hcause : cause.isNoise <;> simp [ofResult, hcause]

-- What is left of a line is noise just when it has no letter of a frame in front.
theorem ofResult_eq_noise_iff (rest : List Char) :
    ofResult (Frame.parse (Utf8.encode rest)) = .noise ↔
      ∀ letter ∈ letters, rest.head? ≠ some letter := by
  have htext : Utf8.ofString (String.ofList rest) = Utf8.encode rest := by
    rw [Utf8.ofString, String.toList_ofList]
  rw [head?_letters_iff]
  rcases Frame.spells_or_breaks (String.ofList rest) with ⟨parts, frame, hline, hspells⟩ |
    ⟨cause, hbreaks⟩
  · have hparse := Frame.parse_of_spells hspells
    have hhead : (Utf8.encode rest).head? = some parts.form.letter := by
      rw [← htext, ← hline, Frame.Parts.line, List.head?_cons]
    rw [hline, htext] at hparse
    rw [hparse]
    exact iff_of_false (by simp [ofResult]) fun hnone => hnone parts.form hhead
  · have hparse := Frame.parse_of_breaks hbreaks
    have hnoise := isNoise_iff_of_breaks hbreaks
    rw [htext] at hparse hnoise
    rw [hparse, ← hnoise]
    by_cases hcause : cause.isNoise = true <;> simp [ofResult, hcause]

theorem of_encode {text rest : List Char} {channel : Channel} (htext : text ≠ [])
    (hroutes : Routes text channel rest) :
    of (Utf8.encode text) = ofResult (Frame.parse (Utf8.encode rest)) := by
  have hrest : (route (Utf8.encode text)).2 = Utf8.encode rest := by
    rw [route_of_routes hroutes]
  cases hline : Utf8.encode text with
  | nil =>
    have hdecode := Utf8.decode_encode text
    rw [hline, Utf8.decode_nil] at hdecode
    exact absurd hdecode.symm htext
  | cons byte line =>
    rw [hline] at hrest
    rw [of, hrest]

theorem fits_ofResult {text rest : List Char} {channel : Channel} (htext : text ≠ [])
    (hroutes : Routes text channel rest) :
    Fits text (ofResult (Frame.parse (Utf8.encode rest))) := by
  have hframe := ofResult_eq_frame_iff (Frame.parse (Utf8.encode rest))
  have hnoise := ofResult_eq_noise_iff rest
  cases hkind : ofResult (Frame.parse (Utf8.encode rest)) with
  | empty => exact absurd hkind (ofResult_ne_empty _)
  | frame =>
    obtain ⟨frame, hparse⟩ := hframe.mp hkind
    exact .frame htext hroutes hparse
  | noise => exact .noise htext hroutes (hnoise.mp hkind)
  | damaged =>
    rw [hkind] at hframe hnoise
    have hletter := mt hnoise.mpr nofun
    push Not at hletter
    obtain ⟨letter, hm, hhead⟩ := hletter
    exact .damaged htext hroutes hm hhead fun frame hparse => nomatch hframe.mpr ⟨frame, hparse⟩

theorem of_encode_of_fits {text : List Char} {kind : LineKind} (h : Fits text kind) :
    of (Utf8.encode text) = kind := by
  cases h with
  | empty htext => rw [htext]; rfl
  | frame htext hroutes hparse => rw [of_encode htext hroutes, hparse]; rfl
  | noise htext hroutes hletter =>
    rw [of_encode htext hroutes]
    exact (ofResult_eq_noise_iff _).mpr hletter
  | @damaged channel rest letter htext hroutes hletter hhead hparse =>
    rw [of_encode htext hroutes]
    cases hkind : ofResult (Frame.parse (Utf8.encode rest)) with
    | empty => exact absurd hkind (ofResult_ne_empty _)
    | frame =>
      obtain ⟨frame, hframe⟩ := (ofResult_eq_frame_iff _).mp hkind
      exact absurd hframe (hparse frame)
    | noise => exact absurd hhead ((ofResult_eq_noise_iff rest).mp hkind letter hletter)
    | damaged => rfl

-- The kinds leave no text out and have none in common.
theorem of_encode_eq_iff (text : List Char) (kind : LineKind) :
    of (Utf8.encode text) = kind ↔ Fits text kind := by
  refine ⟨?_, of_encode_of_fits⟩
  rintro rfl
  by_cases htext : text = []
  · subst htext
    exact .empty rfl
  · obtain ⟨channel, rest, hroutes⟩ := exists_routes text
    rw [of_encode htext hroutes]
    exact fits_ofResult htext hroutes

-- A second digit is no letter of a frame, and a frame that is cut short is not noise.
example : of (Utf8.ofString "2t1230") = .frame ∧ of (Utf8.ofString "12t1230") = .noise ∧
    of (Utf8.ofString "2t123") = .damaged := by
  decide

-- Each line is of one kind.
theorem length_eq_countP (lines : List Bytes) :
    lines.length = lines.countP (of · = .frame) + lines.countP (of · = .damaged) +
      lines.countP (of · = .noise) + lines.countP (of · = .empty) := by
  induction lines with
  | nil => rfl
  | cons line lines ih =>
    rw [List.length_cons, ih]
    cases hkind : of line with
    | _ =>
      simp [hkind]
      omega

theorem of_eq_empty_iff (line : Bytes) : of line = .empty ↔ line = [] := by
  cases line with
  | nil => exact iff_of_true rfl rfl
  | cons byte line => exact iff_of_false (ofResult_ne_empty _) (List.cons_ne_nil _ _)

theorem countP_empty (lines : List Bytes) :
    lines.countP (of · = .empty) = lines.count [] := by
  rw [List.count]
  apply List.countP_congr
  intro line _
  simp [of_eq_empty_iff]

end LineKind

end QuadCan
