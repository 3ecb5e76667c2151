import QuadCan.Hub.Basic
import QuadCan.Line.Route

namespace QuadCan

-- A frame on its way through the observers of a channel. Those that wait were
-- registered when it came, each with its place in the order of registration.
structure Delivery where
  channel : Channel
  frame : Frame
  actions : List Action := []
  waiting : List (Observer × Nat)

namespace Hub

-- One action of an observer. Closing is left to the engine.
def act (hub : Hub) (channel : Channel) (frame : Frame) : Action → Hub
  | .note tag => hub.log (.noted tag frame)
  | .send target frame => hub.push (Command.stamp target.val frame.body)
  | .register observer => hub.register channel observer
  | .forward mailbox => { hub with mailboxes := hub.mailboxes.modify mailbox (· ++ [frame]) }
  | .close => hub
  | .panic => hub.log (.panicked channel frame)

-- The actions that an action leaves to an observer. A panic leaves none, and
-- the observers after it have their turn all the same.
def afterAction (actions : List Action) : Action → List Action
  | .panic => []
  | _ => actions

-- One step of a delivery: the next action, else the next observer is called.
def advance (hub : Hub) (delivery : Delivery) : Hub × Option Delivery :=
  match delivery.actions, delivery.waiting with
  | action :: actions, _ =>
      (hub.act delivery.channel delivery.frame action,
        some { delivery with actions := afterAction actions action })
  | [], (observer, position) :: waiting =>
      (hub.log (.called delivery.channel position delivery.frame),
        some { delivery with actions := observer delivery.frame, waiting := waiting })
  | [], [] => (hub, none)

theorem advance_shorter (hub : Hub) (delivery rest : Delivery)
    (h : (hub.advance delivery).2 = some rest) :
    rest.waiting.length < delivery.waiting.length ∨
      rest.waiting.length = delivery.waiting.length ∧
        rest.actions.length < delivery.actions.length := by
  unfold advance at h
  split at h
  next action actions _ =>
    cases h
    refine Or.inr ⟨rfl, ?_⟩
    cases action <;> simp_all [afterAction]
  next => cases h; simp_all
  next => cases h

-- A delivery to its end.
def finish (hub : Hub) (delivery : Delivery) : Hub :=
  match _h : hub.advance delivery with
  | (hub, none) => hub
  | (hub, some rest) => finish hub rest
termination_by (delivery.waiting.length, delivery.actions.length)
decreasing_by
  have := advance_shorter _ delivery rest (by rw [_h])
  simp only [Prod.lex_def]
  omega

-- A line less its channel is counted as what it is. A frame is to be delivered
-- to the observers that are registered now.
def classify (hub : Hub) (channel : Channel) (payload : Bytes) : Hub × Option Delivery :=
  match Frame.parse payload with
  | .ok frame =>
      (hub.count fun counters => { counters with framesDelivered := counters.framesDelivered + 1 },
        some ⟨channel, frame, [], (hub.observers channel).zipIdx⟩)
  | .error cause =>
      if cause.isNoise then
        ((hub.count fun counters =>
          { counters with nonFrameLines := counters.nonFrameLines + 1 }).log
            (.noise channel payload), none)
      else
        ((hub.count fun counters =>
          { counters with linesDropped := counters.linesDropped + 1 }).log
            (.dropped channel payload cause), none)

-- Takes in a line. An empty one is counted and belongs to no channel.
def receive (hub : Hub) (line : Bytes) : Hub × Option Delivery :=
  let hub := (hub.count fun counters =>
    { counters with linesReceived := counters.linesReceived + 1 }).log (.received line)
  match line with
  | [] => (hub, none)
  | _ :: _ => hub.classify (route line).1 (route line).2

def complete (result : Hub × Option Delivery) : Hub :=
  match result with
  | (hub, some delivery) => hub.finish delivery
  | (hub, none) => hub

-- A payload through the observers of a channel, without a line around it.
def deliver (hub : Hub) (channel : Channel) (payload : Bytes) : Hub :=
  complete (hub.classify channel payload)

-- A line through all its observers.
def dispatch (hub : Hub) (line : Bytes) : Hub :=
  complete (hub.receive line)

end Hub

end QuadCan
