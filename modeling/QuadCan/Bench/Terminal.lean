import QuadCan.Fault
import QuadCan.Line.Splitter
import QuadCan.Serial.Connection

namespace QuadCan

namespace SerialConnection

-- The answer of the system for a device that it does not know.
def absent : Fault :=
  .serial "No such file or directory"

-- The answer of the system for a device that is open already.
def busy : Fault :=
  .serial "Device or resource busy"

end SerialConnection

-- A serial device whose far end is at hand: what the far end sent and nobody has
-- read, and the reading half of the session while the device is open. It stands
-- for the system and its serial driver where a link is tried out. The engine does
-- not know of it, and takes what such a link answers as it comes.
structure Terminal where
  connection : SerialConnection
  unread : Bytes := []
  hungUp : Bool := false
  reader : Option Splitter := none
deriving DecidableEq, Repr

namespace Terminal

-- Nothing came before the read timeout.
def idle : StreamError :=
  ⟨.timedOut, some "Operation timed out"⟩

-- The far end went away.
def broken : StreamError :=
  ⟨.brokenPipe, some "Broken pipe"⟩

def isOpen (terminal : Terminal) : Bool :=
  terminal.connection.isOpen

-- Opening takes the device for itself and clears what was sent before.
def connect (terminal : Terminal) : Except Fault Unit × Terminal :=
  if terminal.hungUp then (.error SerialConnection.absent, terminal)
  else if terminal.isOpen then (.error SerialConnection.busy, terminal)
  else
    (.ok (), { terminal with
      connection := { terminal.connection with isOpen := true }
      unread := []
      reader := some {} })

def disconnect (terminal : Terminal) : Terminal :=
  { terminal with
    connection := { terminal.connection with isOpen := false }
    reader := none }

-- The far end sends, as long as it is there.
def feed (terminal : Terminal) (bytes : Bytes) : Terminal :=
  if terminal.hungUp then terminal
  else { terminal with unread := terminal.unread ++ bytes }

-- The far end goes away with what nobody has read.
def hangUp (terminal : Terminal) : Terminal :=
  { terminal with unread := [], hungUp := true }

private def reads (terminal : Terminal) : List Read :=
  match terminal.unread with
  | [] => []
  | unread => (Read.data unread).pieces

private def unreadOf (reads : List Read) : Bytes :=
  reads.flatMap fun
    | .data bytes => bytes
    | .failed _ => []

-- The next line as text.
def readLine (terminal : Terminal) : Except StreamError Bytes × Terminal :=
  match terminal.reader with
  | none => (.error ⟨.notConnected, none⟩, terminal)
  | some splitter =>
      let (result, splitter, rest) := splitter.readLine terminal.reads
      let terminal := { terminal with reader := some splitter, unread := unreadOf rest }
      match result with
      | .line bytes => (.ok (Utf8.repair bytes), terminal)
      | .failed error => (.error error, terminal)
      | .starved => (.error (if terminal.hungUp then broken else idle), terminal)

-- All lines that have ended.
def readLines (terminal : Terminal) : List Bytes × Terminal :=
  match terminal.reader with
  | none => ([], terminal)
  | some splitter =>
      let (results, splitter) := splitter.results terminal.reads
      ((results.filterMap Splitter.Result.line?).map Utf8.repair,
        { terminal with reader := some splitter, unread := [] })

-- What arrives at the far end when the device is written to.
def write (terminal : Terminal) (bytes : Bytes) : Except StreamError Bytes :=
  if !terminal.isOpen then .error ⟨.notConnected, none⟩
  else if terminal.hungUp then .error broken
  else .ok bytes

end Terminal

end QuadCan
