import QuadCan.Text.Utf8

namespace QuadCan

-- The settings of a channel that a command can change. Each has a letter of its
-- own, and none of them is a letter of a frame.
inductive Setting where
  | onBus
  | offBus
  | rate
  | bitrate
  | fdRate
  | samplePoint
  | dataSamplePoint
  | nominalTiming
  | dataTiming
  | listenOnly
deriving DecidableEq, Repr

namespace Setting

def all : List Setting :=
  [.onBus, .offBus, .rate, .bitrate, .fdRate, .samplePoint, .dataSamplePoint, .nominalTiming,
    .dataTiming, .listenOnly]

def letter : Setting → UInt8
  | .onBus => 'O'.toUInt8
  | .offBus => 'C'.toUInt8
  | .rate => 'S'.toUInt8
  | .bitrate => 'y'.toUInt8
  | .fdRate => 'Y'.toUInt8
  | .samplePoint => 'p'.toUInt8
  | .dataSamplePoint => 'P'.toUInt8
  | .nominalTiming => 'a'.toUInt8
  | .dataTiming => 'A'.toUInt8
  | .listenOnly => 'L'.toUInt8

end Setting

end QuadCan
