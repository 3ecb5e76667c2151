import QuadCan.Engine.Basic
import QuadCan.Proofs.Hub.Submission
import QuadCan.Proofs.Text.Decimal

namespace QuadCan

-- A command as it is read: the channel, and the letter and the number of a setting.
def Command.spelled (channel : Channel) (setting : Char × Nat) : Command :=
  Utf8.ofString (toString channel.val ++ setting.1.toString ++ toString setting.2)

-- The settings that a call checks or looks up before it queues a command.
inductive Configuration where
  | nominalBitrate (bitrate : UInt32)
  | dataBitrate (bitrate : UInt32)
  | samplePoint (point : SamplePoint)
deriving DecidableEq, Repr

namespace SamplePoint

-- The sample points that an adapter has.
def InRange (permille : UInt16) : Prop :=
  750 ≤ permille.toNat ∧ permille.toNat ≤ 875

instance (permille : UInt16) : Decidable (InRange permille) :=
  inferInstanceAs (Decidable (_ ∧ _))

end SamplePoint

namespace Configuration

def operation : Configuration → Operation
  | nominalBitrate bitrate => .setNominalBitrate bitrate
  | dataBitrate bitrate => .setDataBitrate bitrate
  | samplePoint point => .setSamplePoint point

-- What a configuration is made of, as letters and numbers in the order of the commands. A
-- nominal rate can always be had, by its place in the table or in bits per second.
inductive Asks : Configuration → List (Char × Nat) → Prop where
  | listed {bitrate : UInt32} {index : Nat} (hindex : Rate.nominal[index]? = some bitrate) :
      Asks (nominalBitrate bitrate) [('S', index)]
  | unlisted {bitrate : UInt32} (hbitrate : bitrate ∉ Rate.nominal) :
      Asks (nominalBitrate bitrate) [('y', bitrate.toNat)]
  | megabits {bitrate : UInt32} {count : Nat} (hleast : 1 ≤ count) (hmost : count ≤ 15)
      (hbitrate : bitrate.toNat = count * 1000000) : Asks (dataBitrate bitrate) [('Y', count)]
  | points {point : SamplePoint}
      (hnominal : ∀ permille ∈ point.nominal, SamplePoint.InRange permille)
      (hdata : ∀ permille ∈ point.data, SamplePoint.InRange permille) :
      Asks (samplePoint point)
        (point.nominal.toList.map (fun permille => ('p', permille.toNat)) ++
          point.data.toList.map fun permille => ('P', permille.toNat))

-- What is wrong with a configuration that cannot be had. The nominal phase is looked at first.
inductive Forbids : Configuration → Fault → Prop where
  | megabits {bitrate : UInt32}
      (hbitrate : ¬ ∃ count, 1 ≤ count ∧ count ≤ 15 ∧ bitrate.toNat = count * 1000000) :
      Forbids (dataBitrate bitrate) (.unsupportedDataBitrate bitrate)
  | nominalPoint {point : SamplePoint} {permille : UInt16}
      (hnominal : point.nominal = some permille) (hrange : ¬ SamplePoint.InRange permille) :
      Forbids (samplePoint point) (.invalidSamplePoint permille)
  | dataPoint {point : SamplePoint} {permille : UInt16}
      (hnominal : ∀ permille ∈ point.nominal, SamplePoint.InRange permille)
      (hdata : point.data = some permille) (hrange : ¬ SamplePoint.InRange permille) :
      Forbids (samplePoint point) (.invalidSamplePoint permille)

end Configuration

namespace Rate

theorem nominalIndex?_of_getElem? {bitrate : UInt32} {index : Nat}
    (h : nominal[index]? = some bitrate) : nominalIndex? bitrate = some index := by
  have hall : ∀ place : Fin nominal.length, nominalIndex? nominal[place] = some place.val := by
    decide
  obtain ⟨hindex, rfl⟩ := List.getElem?_eq_some_iff.mp h
  exact hall ⟨index, hindex⟩

theorem nominalIndex?_of_notMem {bitrate : UInt32} (h : bitrate ∉ nominal) :
    nominalIndex? bitrate = none := by
  rw [nominalIndex?, List.findIdx?_eq_none_iff]
  intro listed hm
  exact beq_false_of_ne fun heq => h (heq ▸ hm)

theorem exists_dataIndex {bitrate : UInt32} {count : Nat} (hleast : 1 ≤ count)
    (hmost : count ≤ 15) (h : bitrate.toNat = count * 1000000) :
    ∃ index, dataIndex bitrate = .ok index ∧ index.toNat = count := by
  have hquotient : (bitrate / 1000000).toNat = count := by
    rw [UInt32.toNat_div, h]
    exact Nat.mul_div_cancel count (by decide)
  have hremainder : bitrate % 1000000 = 0 := by
    rw [← UInt32.toNat_inj, UInt32.toNat_mod, h]
    exact Nat.mul_mod_left count 1000000
  refine ⟨bitrate / 1000000, if_pos ⟨hremainder, ?_, ?_⟩, hquotient⟩
  · rwa [UInt32.le_iff_toNat_le, hquotient]
  · rwa [UInt32.le_iff_toNat_le, hquotient]

theorem dataIndex_eq_error {bitrate : UInt32}
    (h : ¬ ∃ count, 1 ≤ count ∧ count ≤ 15 ∧ bitrate.toNat = count * 1000000) :
    dataIndex bitrate = .error (.unsupportedDataBitrate bitrate) := by
  refine if_neg ?_
  rintro ⟨hremainder, hleast, hmost⟩
  rw [← UInt32.toNat_inj, UInt32.toNat_mod] at hremainder
  rw [UInt32.le_iff_toNat_le, UInt32.toNat_div] at hleast hmost
  simp only [leastMegabits, mostMegabits, UInt32.reduceToNat] at hremainder hleast hmost
  exact h ⟨bitrate.toNat / 1000000, hleast, hmost, by omega⟩

end Rate

namespace SamplePoint

theorem check_eq (permille : UInt16) :
    check permille =
      if InRange permille then .ok permille else .error (.invalidSamplePoint permille) := by
  simp only [check, InRange, least, most, UInt16.le_iff_toNat_le, UInt16.reduceToNat]
  rfl

theorem inRange_or_exists (given : Option UInt16) :
    (∀ permille ∈ given, InRange permille) ∨
      ∃ permille, given = some permille ∧ ¬ InRange permille := by
  cases given with
  | none => exact Or.inl fun _ hm => by cases hm
  | some permille =>
    by_cases h : InRange permille
    · exact Or.inl fun _ hm => by cases hm; exact h
    · exact Or.inr ⟨permille, rfl, h⟩

theorem phase_of_inRange (setting : Setting) {given : Option UInt16}
    (h : ∀ permille ∈ given, InRange permille) :
    phase setting given =
      .ok (given.toList.map fun permille => Operation.numbered setting permille.toNat) := by
  cases given with
  | none => rfl
  | some permille =>
    rw [phase, check_eq, if_pos (h permille rfl)]
    rfl

theorem phase_of_not_inRange (setting : Setting) {permille : UInt16} (h : ¬ InRange permille) :
    phase setting (some permille) = .error (.invalidSamplePoint permille) := by
  rw [phase, check_eq, if_neg h]
  rfl

end SamplePoint

-- A letter and a number make the command of a setting.
theorem Command.stamp_numbered (channel : Channel) {setting : Setting} {letter : Char}
    (h : Utf8.ofString letter.toString = [setting.letter]) (value : Nat) :
    stamp channel.val (Operation.numbered setting value) = spelled channel (letter, value) := by
  rw [spelled, Utf8.ofString_append, Utf8.ofString_append, h, Decimal.ofString_toString,
    Decimal.ofString_toString, List.append_assoc]
  rfl

namespace Configuration

variable {configuration : Configuration} {settings : List (Char × Nat)} {fault : Fault}

theorem map_stamp_numbered (channel : Channel) {setting : Setting} {letter : Char}
    (h : Utf8.ofString letter.toString = [setting.letter]) (number : α → Nat)
    (values : List α) :
    (values.map fun value => Operation.numbered setting (number value)).map
        (Command.stamp channel.val) =
      (values.map fun value => (letter, number value)).map (Command.spelled channel) := by
  rw [List.map_map, List.map_map]
  exact List.map_congr_left fun value _ => Command.stamp_numbered channel h (number value)

theorem commands_of_asks (h : configuration.Asks settings) (channel : Channel) :
    configuration.operation.commands channel = .ok (settings.map (Command.spelled channel)) := by
  cases h with
  | @listed bitrate index hindex =>
    simp only [operation, Operation.commands, Operation.bodies,
      Rate.nominalIndex?_of_getElem? hindex]
    exact congrArg Except.ok (map_stamp_numbered channel (by decide) id [index])
  | @unlisted bitrate hbitrate =>
    simp only [operation, Operation.commands, Operation.bodies,
      Rate.nominalIndex?_of_notMem hbitrate]
    exact congrArg Except.ok (map_stamp_numbered channel (by decide) id [bitrate.toNat])
  | @megabits bitrate count hleast hmost hbitrate =>
    obtain ⟨index, hindex, rfl⟩ := Rate.exists_dataIndex hleast hmost hbitrate
    simp only [operation, Operation.commands, Operation.bodies, hindex, Except.map]
    exact congrArg Except.ok (map_stamp_numbered channel (by decide) id [index.toNat])
  | @points point hnominal hdata =>
    simp only [operation, Operation.commands, Operation.bodies, SamplePoint.commands,
      SamplePoint.phase_of_inRange _ hnominal, SamplePoint.phase_of_inRange _ hdata]
    have hp : Utf8.ofString 'p'.toString = [Setting.samplePoint.letter] := by decide
    have hP : Utf8.ofString 'P'.toString = [Setting.dataSamplePoint.letter] := by decide
    refine congrArg Except.ok (List.map_append.trans ?_)
    rw [map_stamp_numbered channel hp, map_stamp_numbered channel hP, List.map_append]

-- One bad value is enough, whatever the other phase is given.
theorem commands_of_forbids (h : configuration.Forbids fault) (channel : Channel) :
    configuration.operation.commands channel = .error fault := by
  cases h with
  | megabits hbitrate =>
    simp only [operation, Operation.commands, Operation.bodies, Rate.dataIndex_eq_error hbitrate]
    rfl
  | nominalPoint hnominal hrange =>
    simp only [operation, Operation.commands, Operation.bodies, SamplePoint.commands, hnominal,
      SamplePoint.phase_of_not_inRange _ hrange]
    rfl
  | dataPoint hnominal hdata hrange =>
    simp only [operation, Operation.commands, Operation.bodies, SamplePoint.commands,
      SamplePoint.phase_of_inRange _ hnominal, hdata, SamplePoint.phase_of_not_inRange _ hrange]
    rfl

-- The table decides about a nominal rate.
theorem exists_asks_nominal (bitrate : UInt32) :
    ∃ setting, (nominalBitrate bitrate).Asks [setting] := by
  by_cases h : bitrate ∈ Rate.nominal
  · obtain ⟨index, hindex⟩ := List.mem_iff_getElem?.mp h
    exact ⟨_, .listed hindex⟩
  · exact ⟨_, .unlisted h⟩

theorem asks_or_forbids (configuration : Configuration) :
    (∃ settings, configuration.Asks settings) ∨ ∃ fault, configuration.Forbids fault := by
  cases configuration with
  | nominalBitrate bitrate =>
    obtain ⟨setting, hsetting⟩ := exists_asks_nominal bitrate
    exact Or.inl ⟨_, hsetting⟩
  | dataBitrate bitrate =>
    by_cases h : ∃ count, 1 ≤ count ∧ count ≤ 15 ∧ bitrate.toNat = count * 1000000
    · obtain ⟨count, hleast, hmost, hcount⟩ := h
      exact Or.inl ⟨_, .megabits hleast hmost hcount⟩
    · exact Or.inr ⟨_, .megabits h⟩
  | samplePoint point =>
    rcases SamplePoint.inRange_or_exists point.nominal with
      hnominal | ⟨permille, hgiven, hrange⟩
    · rcases SamplePoint.inRange_or_exists point.data with hdata | ⟨permille, hgiven, hrange⟩
      · exact Or.inl ⟨_, .points hnominal hdata⟩
      · exact Or.inr ⟨_, .dataPoint hnominal hgiven hrange⟩
    · exact Or.inr ⟨_, .nominalPoint hgiven hrange⟩

theorem call_of_asks (h : configuration.Asks settings) (hub : Hub) (channel : Channel) :
    hub.call channel configuration.operation =
      (.ok (), (settings.map (Command.spelled channel)).foldl Hub.push hub) := by
  rw [Hub.call, commands_of_asks h]

theorem call_of_forbids (h : configuration.Forbids fault) (hub : Hub) (channel : Channel) :
    hub.call channel configuration.operation = (.error fault, hub) := by
  rw [Hub.call, commands_of_forbids h]

end Configuration

namespace Engine

-- A configuration call takes effect as a whole or not at all. Where the queue is open, it gets the
-- commands that the configuration asks for and no others, and each of them is counted. A call
-- that is refused leaves all of the engine as it was.
structure Configures (engine : Engine) (channel : Channel) (configuration : Configuration) :
    Prop where
  accepts : (engine.hub.call channel configuration.operation).1 = .ok () ↔
    ∃ settings, configuration.Asks settings
  refuses : ∀ fault, (engine.hub.call channel configuration.operation).1 = .error fault ↔
    configuration.Forbids fault
  nominal : ∀ bitrate, configuration = .nominalBitrate bitrate →
    ∃ setting, configuration.Asks [setting]
  queues : engine.hub.accepting = true → ∀ settings, configuration.Asks settings →
    engine.step (.call channel configuration.operation) =
      { engine with hub := engine.hub.queued (settings.map (Command.spelled channel)) }
  discards : engine.hub.accepting = false → ∀ settings, configuration.Asks settings →
    engine.step (.call channel configuration.operation) =
      { engine with hub := engine.hub.discarded (settings.map (Command.spelled channel)) }
  keeps : ∀ fault, configuration.Forbids fault →
    engine.step (.call channel configuration.operation) = engine

theorem configures (engine : Engine) (channel : Channel) (configuration : Configuration) :
    engine.Configures channel configuration where
  accepts := by
    constructor
    · intro hcall
      refine configuration.asks_or_forbids.resolve_right ?_
      rintro ⟨fault, hfault⟩
      rw [Configuration.call_of_forbids hfault] at hcall
      cases hcall
    · rintro ⟨settings, hsettings⟩
      rw [Configuration.call_of_asks hsettings]
  refuses fault := by
    constructor
    · intro hcall
      rcases configuration.asks_or_forbids with ⟨settings, hsettings⟩ | ⟨cause, hcause⟩
      · rw [Configuration.call_of_asks hsettings] at hcall
        cases hcall
      · rw [Configuration.call_of_forbids hcause] at hcall
        cases hcall
        exact hcause
    · intro hfault
      rw [Configuration.call_of_forbids hfault]
  nominal := by
    rintro bitrate rfl
    exact Configuration.exists_asks_nominal bitrate
  queues haccepting settings hsettings := by
    rw [step, Configuration.call_of_asks hsettings, Hub.foldl_push_of_accepting haccepting]
  discards haccepting settings hsettings := by
    rw [step, Configuration.call_of_asks hsettings, Hub.foldl_push_of_not_accepting haccepting]
  keeps fault hfault := by
    rw [step, Configuration.call_of_forbids hfault]

-- Two good values are queued one after the other, and a good one is not queued before a bad one
-- for the data phase is found.
theorem configures_sample_points :
    let engine := (fresh {}).step (.call 0 .openBus)
    engine.step (.call 2 (.setSamplePoint ⟨some 750, some 875⟩)) =
      { engine with hub := engine.hub.queued [Utf8.ofString "2p750", Utf8.ofString "2P875"] } ∧
    engine.step (.call 2 (.setSamplePoint ⟨some 750, some 876⟩)) = engine := by
  intro engine
  have hnominal : ∀ permille ∈ some (750 : UInt16), SamplePoint.InRange permille := by
    rintro _ ⟨⟩
    decide
  have hdata : ∀ permille ∈ some (875 : UInt16), SamplePoint.InRange permille := by
    rintro _ ⟨⟩
    decide
  constructor
  · exact (configures engine 2 (.samplePoint ⟨some 750, some 875⟩)).queues rfl _
      (.points hnominal hdata)
  · exact (configures engine 2 (.samplePoint ⟨some 750, some 876⟩)).keeps _
      (.dataPoint hnominal rfl (by decide))

end Engine

end QuadCan
