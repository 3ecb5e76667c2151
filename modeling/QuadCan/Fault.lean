namespace QuadCan

-- The kinds of failure of a byte stream.
inductive StreamFault where
  | notFound
  | permissionDenied
  | connectionReset
  | notConnected
  | brokenPipe
  | wouldBlock
  | invalidInput
  | invalidData
  | timedOut
  | writeZero
  | interrupted
  | unexpectedEof
  | other
deriving DecidableEq, Repr

namespace StreamFault

def description : StreamFault → String
  | notFound => "entity not found"
  | permissionDenied => "permission denied"
  | connectionReset => "connection reset"
  | notConnected => "not connected"
  | brokenPipe => "broken pipe"
  | wouldBlock => "operation would block"
  | invalidInput => "invalid input parameter"
  | invalidData => "invalid data"
  | timedOut => "timed out"
  | writeZero => "write zero"
  | interrupted => "operation interrupted"
  | unexpectedEof => "unexpected end of file"
  | other => "other error"

-- Nothing came in time. The stream itself is in order.
def isIdle : StreamFault → Bool
  | timedOut | wouldBlock => true
  | _ => false

end StreamFault

-- A failed operation on a byte stream. Without words of its own it is
-- described by its kind.
structure StreamError where
  kind : StreamFault
  words : Option String := none
deriving DecidableEq, Repr

def StreamError.message (error : StreamError) : String :=
  error.words.getD error.kind.description

-- The two loops that serve an open link.
inductive Loop where
  | read
  | write
deriving DecidableEq, Repr

def Loop.name : Loop → String
  | .read => "read loop"
  | .write => "write loop"

-- What a call on the library can fail with.
inductive Fault where
  | stream (cause : StreamError)
  | serial (description : String)
  | invalidChannel (channel count : Nat)
  | unsupportedDataBitrate (bitrate : UInt32)
  | invalidSamplePoint (permille : UInt16)
  | spawn (loop : Loop) (cause : StreamError)
deriving DecidableEq, Repr

namespace Fault

def message : Fault → String
  | stream cause => "I/O error: " ++ cause.message
  | serial description => "Serial port error: " ++ description
  | invalidChannel channel count =>
      "Invalid channel number: " ++ toString channel ++
        " (device has " ++ toString count ++ " channels)"
  | unsupportedDataBitrate bitrate =>
      "Unsupported data bitrate " ++ toString bitrate.toNat ++
        " (must be 1-15 Mbit/s in whole megabits)"
  | invalidSamplePoint permille =>
      "Invalid sample point " ++ toString permille.toNat ++ "/1000 (valid: 750-875)"
  | spawn loop cause => "Failed to spawn " ++ loop.name ++ " thread: " ++ cause.message

-- The link failed.
def isLinkFault : Fault → Bool
  | stream _ | serial _ => true
  | _ => false

-- A value given by the caller was refused.
def isRefusal : Fault → Bool
  | invalidChannel _ _ | unsupportedDataBitrate _ | invalidSamplePoint _ => true
  | _ => false

end Fault

end QuadCan
