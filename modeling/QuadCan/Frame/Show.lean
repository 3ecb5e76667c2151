import QuadCan.Frame.Basic
import QuadCan.Text.Hex
import QuadCan.Text.Record

namespace QuadCan.Frame

private def mark (given : Bool) (name : String) : String :=
  if given then name else ""

private def hexBytes (data : Bytes) : List String :=
  data.map fun byte => Utf8.text (Hex.ofByte byte)

private def hexId (frame : Frame) : String :=
  Utf8.text (Hex.upper 1 frame.id.toNat)

-- One line for a reader: the identifier, the marks, the length and the data.
def text (frame : Frame) : String :=
  let id := frame.hexId
  String.ofList (List.replicate (8 - id.length) ' ') ++ id ++
    mark frame.extended " EXT" ++ mark frame.fd " FD" ++ mark frame.brs " BRS" ++
    "   [" ++ toString frame.dlc.toNat ++ "]  " ++
    if frame.remote then "remote request" else " ".intercalate (hexBytes frame.data)

def record (frame : Frame) : String :=
  Record.text "CanFrame" [
    ("id", "0x" ++ frame.hexId),
    ("dlc", toString frame.dlc.toNat),
    ("data", Record.list (hexBytes frame.data)),
    ("is_extended", toString frame.extended),
    ("is_remote", toString frame.remote),
    ("is_fd", toString frame.fd),
    ("is_brs", toString frame.brs)]

end QuadCan.Frame
