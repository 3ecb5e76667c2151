import QuadCan.Bus.Rate
import QuadCan.Bus.SamplePoint
import QuadCan.Bus.Timing
import QuadCan.Channel
import QuadCan.Frame.Encode

namespace QuadCan

-- A line on its way to the adapter, without its delimiter.
abbrev Command := Bytes

namespace Command

-- Ends a line in either direction.
def delimiter : UInt8 := '\r'.toUInt8

-- A command addressed to a channel.
def stamp (channel : Nat) (body : Bytes) : Command :=
  Decimal.digits channel ++ body

end Command

-- What a caller can ask of a channel.
inductive Operation where
  | openBus
  | closeBus
  | setRate (index : UInt32)
  | setBitrate (bitrate : UInt32)
  | setFdRate (index : UInt32)
  | setNominalBitrate (bitrate : UInt32)
  | setDataBitrate (bitrate : UInt32)
  | setSamplePoint (point : SamplePoint)
  | setNominalTiming (timing : Timing)
  | setDataTiming (timing : Timing)
  | setCustomTiming (literal : String)
  | setListenOnly (enabled : Bool)
  | send (frame : Frame)
  | sendRaw (text : String)
deriving DecidableEq, Repr

namespace Operation

-- A setting and its number.
def numbered (setting : Setting) (value : Nat) : Bytes :=
  setting.letter :: Decimal.digits value

-- The commands of an operation, less the channel. An operation that is refused
-- has none. A nominal rate with a number of its own goes by that number.
def bodies : Operation → Except Fault (List Bytes)
  | openBus => .ok [[Setting.onBus.letter]]
  | closeBus => .ok [[Setting.offBus.letter]]
  | setRate index => .ok [numbered .rate index.toNat]
  | setBitrate bitrate => .ok [numbered .bitrate bitrate.toNat]
  | setFdRate index => .ok [numbered .fdRate index.toNat]
  | setNominalBitrate bitrate =>
      match Rate.nominalIndex? bitrate with
      | some index => .ok [numbered .rate index]
      | none => .ok [numbered .bitrate bitrate.toNat]
  | setDataBitrate bitrate =>
      (Rate.dataIndex bitrate).map fun index => [numbered .fdRate index.toNat]
  | setSamplePoint point => point.commands
  | setNominalTiming timing => .ok [timing.nominalLiteral]
  | setDataTiming timing => .ok [timing.dataLiteral]
  | setCustomTiming literal => .ok [Utf8.ofString literal]
  | setListenOnly enabled => .ok [numbered .listenOnly enabled.toNat]
  | send frame => .ok [frame.body]
  | sendRaw text => .ok [Utf8.ofString text]

-- The commands of an operation on a channel, in the order in which they are sent.
def commands (operation : Operation) (channel : Channel) : Except Fault (List Command) :=
  operation.bodies.map fun bodies => bodies.map (Command.stamp channel.val)

end Operation

end QuadCan
