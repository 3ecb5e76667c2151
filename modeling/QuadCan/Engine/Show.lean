import QuadCan.Engine.Basic
import QuadCan.Hub.Show

namespace QuadCan.Engine

def text (engine : Engine) : String :=
  "SLCANX " ++ engine.config.device ++ " @ " ++ toString engine.config.baudRate.toNat ++
    " baud (" ++ toString Channel.count ++ " channels)"

def record (engine : Engine) : String :=
  Record.text "Slcanx" [
    ("port_name", Quoted.text engine.config.device),
    ("open", toString engine.isOpen),
    ("pending_commands", toString engine.hub.pending.length),
    ("channels", Record.list (Channel.all.map engine.hub.channelRecord))]

-- The link alone, without the channels that it serves.
def linkRecord (engine : Engine) : String :=
  Record.text "Transport" [
    ("open", toString engine.isOpen),
    ("batch_window", engine.config.batchWindow.text),
    ("batch_limit", toString engine.config.batchLimit)]

end QuadCan.Engine
