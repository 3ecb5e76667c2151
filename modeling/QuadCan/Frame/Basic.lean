import QuadCan.Frame.Form
import QuadCan.Frame.Length

namespace QuadCan

-- A frame on one of the buses. The length is a count of bytes and not a code:
-- a data frame has that many bytes of data, and a remote frame asks for that many.
-- Neither the identifier nor the length is checked against the bus.
structure Frame where
  id : UInt32 := 0
  data : Bytes := []
  dlc : UInt8 := 0
  extended : Bool := false
  remote : Bool := false
  fd : Bool := false
  brs : Bool := false
deriving DecidableEq, Repr, Inhabited

namespace Frame

def ofData (id : UInt32) (data : Bytes) : Frame where
  id := id
  data := data
  dlc := UInt8.ofNat (min data.length Length.longest)

def withExtended (frame : Frame) (extended : Bool) : Frame :=
  { frame with extended := extended }

def ofExtendedData (id : UInt32) (data : Bytes) : Frame :=
  (ofData id data).withExtended true

def ofFlexibleData (id : UInt32) (data : Bytes) (brs : Bool) : Frame :=
  { ofData id data with fd := true, brs := brs }

def ofRequest (id : UInt32) (dlc : UInt8) (extended : Bool) : Frame where
  id := id
  dlc := dlc
  extended := extended
  remote := true

-- The flexible format has no remote frames, so its flag decides before the other.
def kind (frame : Frame) : FrameKind :=
  if frame.fd then if frame.brs then .switched else .flexible
  else if frame.remote then .remote
  else .data

def form (frame : Frame) : Form :=
  ⟨frame.kind, frame.extended⟩

def lengthCode (frame : Frame) : Nat :=
  Length.code (if frame.remote then frame.dlc.toNat else frame.data.length)

-- The number of bytes that the line of a frame announces.
def announcedLength (frame : Frame) : Nat :=
  Length.ofCode frame.lengthCode

-- The frame of a form. Its flags are those that the form stands for.
def ofForm (form : Form) (id : UInt32) (data : Bytes) (dlc : UInt8) : Frame where
  id := id
  data := data
  dlc := dlc
  extended := form.extended
  remote := form.kind == .remote
  fd := form.kind == .flexible || form.kind == .switched
  brs := form.kind == .switched

end Frame

end QuadCan
