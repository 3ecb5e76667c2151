import QuadCan.Command
import QuadCan.Frame.Parse
import QuadCan.Frame.Show
import QuadCan.Text.Quoted

namespace QuadCan

-- What happens on a hub and its link, as it is written down.
inductive Event where
  -- the way out
  | accepted (command : Command)
  | refused (command : Command)
  | handed (batch : List Command)
  | written (batch : List Command)
  | lost (batch : List Command)
  | crashed (batch : List Command)
  | abandoned (command : Command)
  -- the way in
  | received (line : Bytes)
  | noise (channel : Channel) (payload : Bytes)
  | dropped (channel : Channel) (payload : Bytes) (cause : DecodeError)
  | called (channel : Channel) (position : Nat) (frame : Frame)
  | panicked (channel : Channel) (frame : Frame)
  | noted (tag : String) (frame : Frame)
  | readFailed (error : StreamError)
  -- the link
  | connected
  | unreachable (fault : Fault)
  | disconnected
deriving DecidableEq, Repr

inductive LogLevel where
  | trace
  | debug
  | warn
deriving DecidableEq, Repr

def LogLevel.name : LogLevel → String
  | .trace => "TRACE"
  | .debug => "DEBUG"
  | .warn => "WARN"

namespace Event

private def speaker (channel : Channel) : String :=
  "ch" ++ toString channel.val ++ ": "

-- The message that an event leaves in the log, if it leaves one.
def log? : Event → Option (LogLevel × String)
  | refused _ => some (.warn, "Command queue closed, command discarded")
  | noise channel payload => some (.debug, speaker channel ++ Quoted.text (Utf8.text payload))
  | dropped channel payload cause =>
      some (.trace, speaker channel ++ "dropped " ++ Quoted.text (Utf8.text payload) ++ ": " ++
        cause.message)
  | panicked channel frame =>
      some (.warn, speaker channel ++ "frame observer panicked on " ++ frame.text)
  | _ => none

end Event

end QuadCan
