import QuadCan.Text.Record

namespace QuadCan

-- What passed over the link, in both directions.
structure Counters where
  linesReceived : UInt64 := 0
  framesDelivered : UInt64 := 0
  linesDropped : UInt64 := 0
  nonFrameLines : UInt64 := 0
  readErrors : UInt64 := 0
  commandsQueued : UInt64 := 0
  batchesWritten : UInt64 := 0
  bytesWritten : UInt64 := 0
  writeFailures : UInt64 := 0
deriving DecidableEq, Repr

namespace Counters

def values (counters : Counters) : List UInt64 :=
  [counters.linesReceived, counters.framesDelivered, counters.linesDropped,
    counters.nonFrameLines, counters.readErrors, counters.commandsQueued,
    counters.batchesWritten, counters.bytesWritten, counters.writeFailures]

def text (counters : Counters) : String :=
  "RX lines: " ++ toString counters.linesReceived.toNat ++
    " (frames " ++ toString counters.framesDelivered.toNat ++
    ", dropped " ++ toString counters.linesDropped.toNat ++
    ", other " ++ toString counters.nonFrameLines.toNat ++
    ", read errors " ++ toString counters.readErrors.toNat ++
    ")\nTX commands: " ++ toString counters.commandsQueued.toNat ++
    " in " ++ toString counters.batchesWritten.toNat ++
    " writes (" ++ toString counters.bytesWritten.toNat ++
    " bytes, " ++ toString counters.writeFailures.toNat ++ " failed)"

def record (counters : Counters) : String :=
  Record.text "StatsSnapshot" ([
    "lines_received", "frames_delivered", "lines_dropped", "non_frame_lines", "read_errors",
    "commands_queued", "batches_written", "bytes_written", "write_failures"].zip
      (counters.values.map fun value => toString value.toNat))

end Counters

end QuadCan
