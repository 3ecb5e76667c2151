import QuadCan.Channel
import QuadCan.Frame.Basic

namespace QuadCan

-- One thing that an observer does about a frame. A panic ends its turn.
inductive Action where
  | note (tag : String)
  | send (channel : Channel) (frame : Frame)
  | register (observer : Frame → List Action)
  | forward (mailbox : Nat)
  | close
  | panic

-- What an observer does about each frame, in order.
abbrev Observer := Frame → List Action

namespace Observer

-- An observer that only minds frames with the given identifier, if one is given.
-- A number past all identifiers leaves it nothing to do.
def only (id : Option Nat) (observer : Observer) : Observer := fun frame =>
  match id with
  | none => observer frame
  | some id => if frame.id.toNat = id then observer frame else []

def note (tag : String) : Observer := fun _ => [.note tag]

def panic (tag : String) : Observer := fun _ => [.note tag, .panic]

def echo (channel : Channel) : Observer := fun frame => [.send channel frame]

-- Each frame brings in a further observer.
def recruit (tag : String) : Observer := fun _ => [.register (note tag)]

def close (tag : String) : Observer := fun _ => [.close, .note tag]

def forward (mailbox : Nat) : Observer := fun _ => [.forward mailbox]

end Observer

end QuadCan
