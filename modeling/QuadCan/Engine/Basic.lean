import QuadCan.Batch
import QuadCan.Config
import QuadCan.Hub.Delivery

namespace QuadCan

-- Who closes a session: a caller, or an observer in the middle of its turn.
inductive Closer where
  | caller
  | observer
deriving DecidableEq, Repr

-- The state of the link. Both loops are told to stop before the link is let
-- go, and the close returns when they have ended.
inductive Phase where
  | closed
  | running
  | stopping (closer : Closer)
  | released (closer : Closer)
deriving DecidableEq, Repr

-- Where the write loop stands. It looks at the phase when it is idle and again
-- before it begins a batch.
inductive Writer where
  | ended
  | idle (carry : Option Command)
  | waiting
  | holding (first : Command)
  | gathering (batch : List Command)
  | writing (batch : List Command) (carry : Option Command)
deriving DecidableEq, Repr

-- Where the read loop stands.
inductive Reader where
  | ended
  | idle
  | waiting
  | delivering (delivery : Delivery)

def Reader.isEnded : Reader → Bool
  | .ended => true
  | _ => false

inductive WriteOutcome where
  | written
  | failed
  | crashed
deriving DecidableEq, Repr

inductive ReadOutcome where
  | line (line : Bytes)
  | failed (error : StreamError)
  | crashed
deriving DecidableEq, Repr

-- A hub with the two loops that serve it while its link is open.
structure Engine where
  config : Config
  hub : Hub := {}
  phase : Phase := .closed
  writer : Writer := .ended
  reader : Reader := .ended

-- What can happen next. Callers act at any time, each loop takes one step after
-- the other, and the outcome of a write or a read is up to the link. A submission
-- is one step: a command joins the queue and is counted at once, since nothing
-- that happens in between depends on the count.
inductive Step where
  -- callers
  | call (channel : Channel) (operation : Operation)
  | push (command : Command)
  | retire
  | register (channel : Channel) (observer : Observer)
  | connect (refusal : Option Fault)
  | shut
  | release
  | rejoin
  -- the write loop
  | resume
  | receive
  | wake
  | confirm
  | gather
  | ship
  | write (outcome : WriteOutcome)
  -- the read loop
  | poll
  | read (outcome : ReadOutcome)
  | observe
  | detach

namespace Engine

def isOpen (engine : Engine) : Bool :=
  engine.phase = .running

def log (engine : Engine) (event : Event) : Engine :=
  { engine with hub := engine.hub.log event }

def count (engine : Engine) (change : Counters → Counters) : Engine :=
  { engine with hub := engine.hub.count change }

-- The link opens unless it refuses, and both loops begin. An open link stays as
-- it is. The loops of the session before have to have ended or to be detached.
-- The system is taken to grant a thread to either loop, so that no step brings
-- about Fault.spawn, after which the link would be let go at once.
def connect (engine : Engine) (refusal : Option Fault) : Except Fault Unit × Engine :=
  if engine.phase = .closed ∧ engine.writer = .ended ∧ engine.reader.isEnded then
    match refusal with
    | some fault => (.error fault, engine.log (.unreachable fault))
    | none =>
        (.ok (),
          { engine with phase := .running, writer := .idle none, reader := .idle }.log .connected)
  else (.ok (), engine)

-- A caller begins to close. Only the first of several does.
def shut (engine : Engine) : Engine :=
  if engine.phase = .running then { engine with phase := .stopping .caller } else engine

-- The link is let go.
def release (engine : Engine) (closer : Closer) : Engine :=
  if engine.phase = .stopping closer then
    { engine with phase := .released closer }.log .disconnected
  else engine

-- The close of a caller returns.
def rejoin (engine : Engine) : Engine :=
  if engine.phase = .released .caller ∧ engine.writer = .ended ∧ engine.reader.isEnded then
    { engine with phase := .closed }
  else engine

def abandon (engine : Engine) (command : Option Command) : Engine :=
  match command with
  | some command => { engine with writer := .ended }.log (.abandoned command)
  | none => { engine with writer := .ended }

-- The top of the write loop. A command that was held back goes first.
def resume (engine : Engine) : Engine :=
  match engine.writer with
  | .idle carry =>
      if engine.phase = .running then
        match carry with
        | some command => { engine with writer := .holding command }
        | none => { engine with writer := .waiting }
      else engine.abandon carry
  | _ => engine

-- The waiting write loop takes a command out of the queue.
def receive (engine : Engine) : Engine :=
  match engine.writer, engine.hub.pending with
  | .waiting, command :: pending =>
      { engine with writer := .holding command, hub := { engine.hub with pending := pending } }
  | _, _ => engine

-- The waiting write loop learns that it has to stop, or that no command can come.
def wake (engine : Engine) : Engine :=
  if engine.writer = .waiting ∧
      (engine.phase ≠ .running ∨ engine.hub.pending = [] ∧ engine.hub.accepting = false) then
    { engine with writer := .ended }
  else engine

-- A batch begins, unless the link was closed in the meantime.
def confirm (engine : Engine) : Engine :=
  match engine.writer with
  | .holding command =>
      if engine.phase = .running then { engine with writer := .gathering [command] }
      else engine.abandon (some command)
  | _ => engine

def hand (engine : Engine) (batch : List Command) (carry : Option Command) : Engine :=
  { engine with writer := .writing batch carry }.log (.handed batch)

-- The batch is offered the next command.
def gather (engine : Engine) : Engine :=
  match engine.writer, engine.hub.pending with
  | .gathering batch, command :: pending =>
      let taken := { engine with hub := { engine.hub with pending := pending } }
      match Batch.fit engine.config.batchLimit (Batch.size batch) command with
      | .full => engine
      | .joins => { taken with writer := .gathering (batch ++ [command]) }
      | .overflows => taken.hand batch (some command)
  | _, _ => engine

-- The batch is complete: it is full, its window has closed, or no command can come.
def ship (engine : Engine) : Engine :=
  match engine.writer with
  | .gathering batch => engine.hand batch none
  | _ => engine

-- A write ends. A failed one loses the batch, and a crash ends the loop.
def write (engine : Engine) (outcome : WriteOutcome) : Engine :=
  match engine.writer with
  | .writing batch carry =>
      match outcome with
      | .written =>
          ({ engine with writer := .idle carry }.count fun counters =>
            { counters with
              batchesWritten := counters.batchesWritten + 1
              bytesWritten := counters.bytesWritten + UInt64.ofNat (Batch.size batch) }).log
            (.written batch)
      | .failed =>
          ({ engine with writer := .idle carry }.count fun counters =>
            { counters with writeFailures := counters.writeFailures + 1 }).log (.lost batch)
      | .crashed => (engine.log (.crashed batch)).abandon carry
  | _ => engine

def proceed (engine : Engine) (result : Hub × Option Delivery) : Engine :=
  { engine with
    hub := result.1
    reader := match result.2 with
      | some delivery => .delivering delivery
      | none => .idle }

-- The top of the read loop.
def poll (engine : Engine) : Engine :=
  match engine.reader with
  | .idle => { engine with reader := if engine.phase = .running then .waiting else .ended }
  | _ => engine

-- A read ends. An error ends the loop only when the link was closed, and one
-- that only says that nothing came is not counted.
def read (engine : Engine) (outcome : ReadOutcome) : Engine :=
  match engine.reader with
  | .waiting =>
      match outcome with
      | .line line => engine.proceed (engine.hub.receive line)
      | .failed error =>
          if engine.phase ≠ .running then { engine with reader := .ended }
          else if error.kind.isIdle then { engine with reader := .idle }
          else
            ({ engine with reader := .idle }.count fun counters =>
              { counters with readErrors := counters.readErrors + 1 }).log (.readFailed error)
      | .crashed => { engine with reader := .ended }
  | _ => engine

-- The delivery goes on by one step. An observer that closes the session first
-- stops the loops, then lets the link go, and goes on when the write loop has
-- ended. Where the session is closed already, or someone else closes it, the
-- call returns at once.
def observe (engine : Engine) : Engine :=
  match engine.reader with
  | .delivering delivery =>
      match engine.phase with
      | .stopping .observer => engine.release .observer
      | .released .observer =>
          if engine.writer = .ended then { engine with phase := .closed } else engine
      | phase =>
          match delivery.actions with
          | .close :: actions =>
              let rest := Reader.delivering { delivery with actions := actions }
              if phase = .running then { engine with reader := rest, phase := .stopping .observer }
              else { engine with reader := rest }
          | _ => engine.proceed (engine.hub.advance delivery)
  | _ => engine

-- A read loop outlives the session that one of its observers has closed, and a
-- new session does not have to wait for it. It is left to itself then, and what
-- its observers still do is done as by any caller.
def detach (engine : Engine) : Engine :=
  if engine.phase = .closed then { engine with reader := .ended } else engine

-- A step that cannot be taken changes nothing.
def step (engine : Engine) : Step → Engine
  | .call channel operation => { engine with hub := (engine.hub.call channel operation).2 }
  | .push command => { engine with hub := engine.hub.push command }
  | .retire => { engine with hub := engine.hub.retire }
  | .register channel observer => { engine with hub := engine.hub.register channel observer }
  | .connect refusal => (engine.connect refusal).2
  | .shut => engine.shut
  | .release => engine.release .caller
  | .rejoin => engine.rejoin
  | .resume => engine.resume
  | .receive => engine.receive
  | .wake => engine.wake
  | .confirm => engine.confirm
  | .gather => engine.gather
  | .ship => engine.ship
  | .write outcome => engine.write outcome
  | .poll => engine.poll
  | .read outcome => engine.read outcome
  | .observe => engine.observe
  | .detach => engine.detach

-- An engine to which nothing has happened yet.
def fresh (config : Config) : Engine :=
  { config := config }

def run (engine : Engine) (steps : List Step) : Engine :=
  steps.foldl step engine

theorem run_append (engine : Engine) (steps later : List Step) :
    engine.run (steps ++ later) = (engine.run steps).run later :=
  List.foldl_append

end Engine

end QuadCan
