import QuadCan.Text.Duration
import QuadCan.Text.Quoted
import QuadCan.Text.Record

namespace QuadCan

-- How an engine reaches its adapter and how it paces itself.
structure Config where
  device : String := ""
  baudRate : UInt32 := 115200
  readTimeout : Duration := .microseconds 10000
  batchWindow : Duration := .microseconds 125
  batchLimit : Nat := 2048
  closeGrace : Duration := .microseconds 10000
  dtr : Bool := true
deriving DecidableEq, Repr

namespace Config

-- The usual settings for a serial device.
def forDevice (device : String) : Config where
  device := device

def record (config : Config) : String :=
  Record.text "SlcanxConfig" [
    ("port_name", Quoted.text config.device),
    ("baud_rate", toString config.baudRate.toNat),
    ("read_timeout", config.readTimeout.text),
    ("batch_window", config.batchWindow.text),
    ("batch_limit", toString config.batchLimit),
    ("close_grace", config.closeGrace.text),
    ("dtr", toString config.dtr)]

end Config

end QuadCan
