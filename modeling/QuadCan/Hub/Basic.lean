import QuadCan.Counters
import QuadCan.Hub.Journal
import QuadCan.Hub.Observer

namespace QuadCan

-- The four channels of an adapter: their observers, the queue that their
-- commands share, the mailboxes of their subscribers, the counters and the
-- journal of what happened.
structure Hub where
  pending : List Command := []
  accepting : Bool := true
  observers : Channel → List Observer := fun _ => []
  mailboxes : List (List Frame) := []
  counters : Counters := {}
  journal : Journal := []

namespace Hub

def log (hub : Hub) (event : Event) : Hub :=
  { hub with journal := event :: hub.journal }

def count (hub : Hub) (change : Counters → Counters) : Hub :=
  { hub with counters := change hub.counters }

-- A command joins the end of the queue and is counted, both in one. Once the
-- queue is gone it is refused and not counted.
def push (hub : Hub) (command : Command) : Hub :=
  if hub.accepting then
    ({ hub with pending := hub.pending ++ [command] }.count fun counters =>
      { counters with commandsQueued := counters.commandsQueued + 1 }).log (.accepted command)
  else hub.log (.refused command)

-- An operation queues all its commands, or none when it is refused.
def call (hub : Hub) (channel : Channel) (operation : Operation) : Except Fault Unit × Hub :=
  match operation.commands channel with
  | .ok commands => (.ok (), commands.foldl push hub)
  | .error fault => (.error fault, hub)

-- The first commands leave the queue.
def take (hub : Hub) (count : Nat) : List Command × Hub :=
  (hub.pending.take count, { hub with pending := hub.pending.drop count })

-- No caller is left. What is queued is still there to be written.
def retire (hub : Hub) : Hub :=
  { hub with accepting := false }

-- The queue goes away with all that is in it.
def dropQueue (hub : Hub) : Hub :=
  { hub with pending := [], accepting := false }

def register (hub : Hub) (channel : Channel) (observer : Observer) : Hub :=
  { hub with observers := fun other =>
      if other = channel then hub.observers other ++ [observer] else hub.observers other }

-- A new mailbox for the frames of a channel.
def subscribe (hub : Hub) (channel : Channel) : Nat × Hub :=
  let mailbox := hub.mailboxes.length
  (mailbox, { hub with mailboxes := hub.mailboxes ++ [[]] }.register channel (.forward mailbox))

def mail (hub : Hub) (mailbox : Nat) : List Frame :=
  hub.mailboxes.getD mailbox []

def emptyMailbox (hub : Hub) (mailbox : Nat) : Hub :=
  { hub with mailboxes := hub.mailboxes.set mailbox [] }

end Hub

end QuadCan
