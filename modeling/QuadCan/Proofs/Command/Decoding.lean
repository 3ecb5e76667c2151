import QuadCan.Hub.Basic
import QuadCan.Proofs.Command.Spelling

namespace QuadCan

namespace Command

theorem stamp_channel (channel : Channel) (body : Bytes) :
    stamp channel.val body = UInt8.ofNat (48 + channel.val) :: body := by
  rw [stamp, Decimal.digits_channel, List.cons_append, List.nil_append]

theorem route_stamp (channel : Channel) (body : Bytes) :
    route (stamp channel.val body) = (channel, body) := by
  rw [stamp_channel, route, Channel.ofDigit?_digit]

-- A command names its channel, and what follows the name is its body.
theorem stamp_inj {first second : Channel} {body other : Bytes}
    (h : stamp first.val body = stamp second.val other) : first = second ∧ body = other := by
  have hroute : route (stamp first.val body) = route (stamp second.val other) := by rw [h]
  rw [route_stamp, route_stamp, Prod.mk.injEq] at hroute
  exact hroute

theorem delimiter_notMem_stamp {channel : Channel} {body : Bytes} (h : IsWord body) :
    delimiter ∉ stamp channel.val body := by
  rw [stamp_channel]
  refine (isWord_cons ?_ h).delimiter_notMem
  revert channel
  decide

end Command

-- The line of a setting is told from a frame by its letter.
theorem Frame.parse_letter_cons (setting : Setting) (argument : Bytes) :
    Frame.parse (setting.letter :: argument) =
      .error (.notAFrame (Char.ofNat setting.letter.toNat)) := by
  simp only [Frame.parse, setting.ofLetter?_letter,
    Utf8.first_of_ascii setting.isWordByte_letter.lt]

namespace Operation

-- The calls whose command says all that there is to them: a setting and its value, the sample
-- point of one phase, and a well-formed frame.
def IsTyped : Operation → Prop
  | openBus | closeBus | setRate _ | setBitrate _ | setFdRate _ => True
  | setNominalTiming _ | setDataTiming _ | setListenOnly _ => True
  | setSamplePoint ⟨some permille, none⟩ => SamplePoint.check permille = .ok permille
  | setSamplePoint ⟨none, some permille⟩ => SamplePoint.check permille = .ok permille
  | send frame => frame.WellFormed
  | _ => False

-- The setting of a call and the argument that follows its letter.
inductive Writes : Operation → Setting → Bytes → Prop where
  | openBus : Writes openBus .onBus []
  | closeBus : Writes closeBus .offBus []
  | setRate (index : UInt32) : Writes (setRate index) .rate (Decimal.digits index.toNat)
  | setBitrate (bitrate : UInt32) :
      Writes (setBitrate bitrate) .bitrate (Decimal.digits bitrate.toNat)
  | setFdRate (index : UInt32) : Writes (setFdRate index) .fdRate (Decimal.digits index.toNat)
  | nominalPoint {permille : UInt16} (hcheck : SamplePoint.check permille = .ok permille) :
      Writes (setSamplePoint ⟨some permille, none⟩) .samplePoint (Decimal.digits permille.toNat)
  | dataPoint {permille : UInt16} (hcheck : SamplePoint.check permille = .ok permille) :
      Writes (setSamplePoint ⟨none, some permille⟩) .dataSamplePoint
        (Decimal.digits permille.toNat)
  | setNominalTiming (timing : Timing) :
      Writes (setNominalTiming timing) .nominalTiming timing.fields
  | setDataTiming (timing : Timing) : Writes (setDataTiming timing) .dataTiming timing.fields
  | setListenOnly (enabled : Bool) :
      Writes (setListenOnly enabled) .listenOnly (Decimal.digits enabled.toNat)

theorem IsTyped.writes_or_sends {operation : Operation} (h : operation.IsTyped) :
    (∃ setting argument, operation.Writes setting argument) ∨
      ∃ frame, operation = .send frame ∧ frame.WellFormed := by
  cases operation with
  | openBus => exact Or.inl ⟨_, _, .openBus⟩
  | closeBus => exact Or.inl ⟨_, _, .closeBus⟩
  | setRate index => exact Or.inl ⟨_, _, .setRate index⟩
  | setBitrate bitrate => exact Or.inl ⟨_, _, .setBitrate bitrate⟩
  | setFdRate index => exact Or.inl ⟨_, _, .setFdRate index⟩
  | setSamplePoint point =>
    obtain ⟨nominal, data⟩ := point
    cases nominal with
    | none =>
      cases data with
      | none => cases h
      | some permille => exact Or.inl ⟨_, _, .dataPoint h⟩
    | some permille =>
      cases data with
      | none => exact Or.inl ⟨_, _, .nominalPoint h⟩
      | some => cases h
  | setNominalTiming timing => exact Or.inl ⟨_, _, .setNominalTiming timing⟩
  | setDataTiming timing => exact Or.inl ⟨_, _, .setDataTiming timing⟩
  | setListenOnly enabled => exact Or.inl ⟨_, _, .setListenOnly enabled⟩
  | send frame => exact Or.inr ⟨frame, rfl, h⟩
  | setNominalBitrate => cases h
  | setDataBitrate => cases h
  | setCustomTiming => cases h
  | sendRaw => cases h

variable {operation other : Operation} {setting : Setting} {argument : Bytes}

theorem Writes.bodies_eq (h : operation.Writes setting argument) :
    operation.bodies = .ok [setting.letter :: argument] := by
  cases h with
  | nominalPoint hcheck =>
    simp only [bodies, SamplePoint.commands, SamplePoint.phase, hcheck]
    rfl
  | dataPoint hcheck =>
    simp only [bodies, SamplePoint.commands, SamplePoint.phase, hcheck]
    rfl
  | _ => rfl

theorem Writes.text?_eq (h : operation.Writes setting argument) : operation.text? = none := by
  cases h with
  | _ => rfl

-- The setting tells the call and the argument its value.
theorem Writes.unique (h : operation.Writes setting argument)
    (h' : other.Writes setting argument) : operation = other := by
  generalize hargument : argument = written at h'
  cases h with
  | openBus => cases h'; rfl
  | closeBus => cases h'; rfl
  | setRate index =>
    cases h' with
    | setRate index' => rw [UInt32.toNat_inj.mp (Decimal.digits_injective hargument)]
  | setBitrate bitrate =>
    cases h' with
    | setBitrate bitrate' => rw [UInt32.toNat_inj.mp (Decimal.digits_injective hargument)]
  | setFdRate index =>
    cases h' with
    | setFdRate index' => rw [UInt32.toNat_inj.mp (Decimal.digits_injective hargument)]
  | nominalPoint =>
    cases h' with
    | nominalPoint => rw [UInt16.toNat_inj.mp (Decimal.digits_injective hargument)]
  | dataPoint =>
    cases h' with
    | dataPoint => rw [UInt16.toNat_inj.mp (Decimal.digits_injective hargument)]
  | setNominalTiming timing =>
    cases h' with
    | setNominalTiming timing' => rw [Timing.fields_injective hargument]
  | setDataTiming timing =>
    cases h' with
    | setDataTiming timing' => rw [Timing.fields_injective hargument]
  | setListenOnly enabled =>
    cases h' with
    | setListenOnly enabled' =>
      have hvalue := Decimal.digits_injective hargument
      revert hvalue
      cases enabled <;> cases enabled' <;> decide

theorem IsTyped.exists_body (h : operation.IsTyped) :
    ∃ body, operation.bodies = .ok [body] ∧ IsWord body := by
  rcases h.writes_or_sends with ⟨setting, argument, hwrites⟩ | ⟨frame, rfl, -⟩
  · have hbodies := hwrites.bodies_eq
    exact ⟨_, hbodies, wordy_bodies hwrites.text?_eq _ hbodies _ (List.mem_singleton_self _)⟩
  · exact ⟨frame.body, rfl, frame.isWord_body⟩

-- A body is the line of a setting and no frame, or the line of just the frame that is sent.
theorem IsTyped.body_cases (h : operation.IsTyped) {body : Bytes}
    (hbody : operation.bodies = .ok [body]) :
    (∃ setting argument, operation.Writes setting argument ∧
        body = setting.letter :: argument ∧
        Frame.parse body = .error (.notAFrame (Char.ofNat setting.letter.toNat))) ∨
      ∃ frame, operation = .send frame ∧ Frame.parse body = .ok frame := by
  rcases h.writes_or_sends with ⟨setting, argument, hwrites⟩ | ⟨frame, rfl, hframe⟩
  · rw [hwrites.bodies_eq] at hbody
    cases hbody
    exact Or.inl ⟨setting, argument, hwrites, rfl, Frame.parse_letter_cons setting argument⟩
  · cases hbody
    exact Or.inr ⟨frame, rfl, Frame.parse_body hframe⟩

theorem IsTyped.eq_of_body (h : operation.IsTyped) (h' : other.IsTyped) {body : Bytes}
    (hbody : operation.bodies = .ok [body]) (hother : other.bodies = .ok [body]) :
    operation = other := by
  rcases h.body_cases hbody with ⟨setting, argument, hwrites, hline, hparse⟩ |
    ⟨frame, rfl, hparse⟩
  · rcases h'.body_cases hother with ⟨setting', argument', hwrites', hline', -⟩ |
      ⟨frame', rfl, hparse'⟩
    · rw [hline, List.cons.injEq] at hline'
      obtain ⟨hletter, rfl⟩ := hline'
      obtain rfl := Setting.letter_injective hletter
      exact hwrites.unique hwrites'
    · rw [hparse] at hparse'
      cases hparse'
  · rcases h'.body_cases hother with
      ⟨setting', argument', -, -, hparse'⟩ | ⟨frame', rfl, hparse'⟩
    · rw [hparse] at hparse'
      cases hparse'
    · rw [hparse] at hparse'
      rw [Except.ok.inj hparse']

theorem commands_eq {body : Bytes} (h : operation.bodies = .ok [body]) (channel : Channel) :
    operation.commands channel = .ok [Command.stamp channel.val body] := by
  rw [commands, h]
  rfl

theorem body_of_commands {body : Bytes} {channel : Channel} {command : Command}
    (hbody : operation.bodies = .ok [body]) (h : operation.commands channel = .ok [command]) :
    command = Command.stamp channel.val body := by
  rw [commands_eq hbody] at h
  cases h
  rfl

-- Each such call queues one command, a line of its own that leads back to the channel. An echo of
-- it is taken for a frame just when a frame was sent, and no other call queues the same command.
theorem commands_decodable (h : operation.IsTyped) (channel : Channel) :
    ∃ command, operation.commands channel = .ok [command] ∧
      (∀ hub : Hub, hub.call channel operation = (.ok (), hub.push command)) ∧
      Command.delimiter ∉ command ∧ (route command).1 = channel ∧
      ((∃ frame, Frame.parse (route command).2 = .ok frame) ↔
        ∃ frame, operation = .send frame) ∧
      ((¬ ∃ frame, operation = .send frame) →
        ∃ char, Frame.parse (route command).2 = .error (.notAFrame char)) ∧
      ∀ (other : Operation) (elsewhere : Channel), other.IsTyped →
        other.commands elsewhere = .ok [command] → elsewhere = channel ∧ other = operation := by
  obtain ⟨body, hbody, hword⟩ := h.exists_body
  have hcommands := commands_eq hbody channel
  refine ⟨Command.stamp channel.val body, hcommands, ?_,
    Command.delimiter_notMem_stamp hword, ?_⟩
  · intro hub
    rw [Hub.call, hcommands]
    rfl
  rw [Command.route_stamp]
  refine ⟨rfl, ?_, ?_, ?_⟩
  · rcases h.body_cases hbody with
      ⟨setting, argument, hwrites, -, hparse⟩ | ⟨frame, rfl, hparse⟩
    · constructor
      · intro ⟨frame, hframe⟩
        rw [hparse] at hframe
        cases hframe
      · intro ⟨frame, hsend⟩
        subst hsend
        cases hwrites
    · exact ⟨fun _ => ⟨frame, rfl⟩, fun _ => ⟨frame, hparse⟩⟩
  · intro hconfigures
    rcases h.body_cases hbody with ⟨setting, -, -, -, hparse⟩ | ⟨frame, hsend, -⟩
    · exact ⟨_, hparse⟩
    · exact absurd ⟨frame, hsend⟩ hconfigures
  · intro other elsewhere hother hsame
    obtain ⟨body', hbody', -⟩ := hother.exists_body
    obtain ⟨hchannel, rfl⟩ := Command.stamp_inj (body_of_commands hbody' hsame)
    exact ⟨hchannel.symm, hother.eq_of_body h hbody' hbody⟩

-- The data phase has a letter of its own, so that its sample point is not taken for the other.
theorem commands_decodable_dataPoint :
    (setSamplePoint ⟨none, some 800⟩).IsTyped ∧
      ∀ (other : Operation) (elsewhere : Channel), other.IsTyped →
        other.commands elsewhere = (setSamplePoint ⟨none, some 800⟩).commands 3 →
          elsewhere = 3 ∧ other = setSamplePoint ⟨none, some 800⟩ := by
  have haccepted : SamplePoint.check 800 = .ok 800 := rfl
  have htyped : (setSamplePoint ⟨none, some 800⟩).IsTyped := haccepted
  refine ⟨htyped, ?_⟩
  obtain ⟨command, hcommand, -, -, -, -, -, hunique⟩ := commands_decodable htyped 3
  rw [hcommand]
  exact hunique

end Operation

end QuadCan
