import QuadCan.Frame.Basic
import QuadCan.Text.Decimal
import QuadCan.Text.Hex

namespace QuadCan.Frame

-- The payload as it stands in a line. A remote frame carries none. The bytes
-- are neither padded nor cut to the announced length.
def payload (frame : Frame) : Bytes :=
  if frame.remote then [] else frame.data.flatMap Hex.ofByte

-- The line of a frame less its channel.
def body (frame : Frame) : Bytes :=
  frame.form.letter :: Hex.upper frame.form.idDigits frame.id.toNat ++
    Hex.digit frame.lengthCode :: frame.payload

-- The line that sends a frame on a channel.
def encode (frame : Frame) (channel : Nat) : Bytes :=
  Decimal.digits channel ++ frame.body

end QuadCan.Frame
