import QuadCan.Config

namespace QuadCan

-- A serial device by its path, with the settings that it is opened with.
structure SerialConnection where
  device : String
  baudRate : UInt32
  readTimeout : Duration := .microseconds 10000
  dtr : Bool := true
  isOpen : Bool := false
deriving DecidableEq, Repr

namespace SerialConnection

def ofConfig (config : Config) : SerialConnection where
  device := config.device
  baudRate := config.baudRate
  readTimeout := config.readTimeout
  dtr := config.dtr

def record (connection : SerialConnection) : String :=
  Record.text "SerialConnection" [
    ("port_name", Quoted.text connection.device),
    ("baud_rate", toString connection.baudRate.toNat),
    ("read_timeout", connection.readTimeout.text),
    ("open", toString connection.isOpen)]

end SerialConnection

end QuadCan
