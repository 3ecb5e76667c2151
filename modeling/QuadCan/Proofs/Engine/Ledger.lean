import QuadCan.Proofs.Engine.Batches
import QuadCan.Proofs.Engine.Tally
import QuadCan.Proofs.Hub.Submission

namespace QuadCan

-- The batch that is being made or written.
def Writer.batch : Writer → List Command
  | .gathering batch => batch
  | .writing batch _ => batch
  | _ => []

theorem Writer.length_batch (writer : Writer) :
    writer.batch.length = writer.assembly.length + writer.underway.flatten.length := by
  cases writer with
  | _ => simp [batch, assembly, underway]

namespace Event

-- A write returns, with success or without.
def isReturn : Event → Bool
  | written _ | lost _ => true
  | _ => false

def settled? : Event → Option (List Command)
  | written batch | lost batch | crashed batch => some batch
  | _ => none

variable (answers : List Event)

theorem countP_isReturn :
    answers.countP isReturn =
      (answers.filterMap written?).length + (answers.filterMap lost?).length := by
  induction answers with
  | nil => rfl
  | cons answer answers ih =>
    rw [List.countP_cons, ih, List.filterMap_cons, List.filterMap_cons]
    cases answer with
    | written batch | lost batch =>
      simp only [isReturn, written?, lost?, if_true, List.length_cons]
      omega
    | _ => rfl

-- The commands in the batches whose write has ended.
theorem length_settled :
    (answers.filterMap settled?).flatten.length =
      (answers.filterMap written?).flatten.length +
        (answers.filterMap lost?).flatten.length +
        (answers.filterMap crashed?).flatten.length := by
  induction answers with
  | nil => rfl
  | cons answer answers ih =>
    simp only [List.filterMap_cons]
    cases answer with
    | written batch | lost batch | crashed batch =>
      simp only [settled?, written?, lost?, crashed?, List.flatten_cons,
        List.length_append, ih]
      omega
    | _ => exact ih

end Event

theorem Session.length_commands (sessions : List Session) :
    (sessions.flatMap Session.commands).length =
      (sessions.flatMap Session.batches).flatten.length +
        (sessions.flatMap Session.leftover).length := by
  induction sessions with
  | nil => rfl
  | cons session sessions ih =>
    have hlength : session.commands.length =
        session.batches.flatten.length + session.leftover.length := List.length_append
    simp only [List.flatMap_cons, List.flatten_append, List.length_append, ih, hlength]
    omega

-- Without a queue a command is refused, and nothing is counted.
theorem Hub.counters_foldl_push {hub : Hub} (h : hub.accepting = false) (commands : List Command) :
    (commands.foldl push hub).counters = hub.counters := by
  rw [foldl_push_of_not_accepting h]
  rfl

namespace Engine

theorem answers_run (config : Config) (steps : List Step) :
    ((fresh config).run steps).hub.journal.answers = (fresh config).along answered steps := by
  obtain ⟨events, hjournal, -, hanswers⟩ := books_run (fresh config) steps
  have hevents : events ++ (fresh config).hub.journal = events := List.append_nil events
  rw [hjournal, hevents, hanswers]

theorem settled_run (config : Config) (steps : List Step) :
    ((fresh config).run steps).hub.journal.settled =
      ((fresh config).along answered steps).filterMap Event.settled? := by
  have hquestion (event : Event) (hevent : event.isAnswer = false) : event.settled? = none := by
    cases event with
    | written | lost | crashed => cases hevent
    | _ => rfl
  rw [← answers_run]
  exact Journal.select_eq_filterMap_answers hquestion _

-- What was accepted is in a batch whose write has ended, in a batch that is made or written, set
-- aside for the next one, in the queue, or was left behind at the end of a session.
theorem length_accepted (config : Config) (steps : List Step) :
    let engine := (fresh config).run steps
    ((fresh config).along admissions steps).length =
      (((fresh config).along answered steps).filterMap Event.settled?).flatten.length +
        engine.hub.pending.length + engine.writer.batch.length + engine.writer.aside.toList.length +
        (engine.hub.journal.sessions.flatMap Session.leftover).length := by
  intro engine
  have haccepted : engine.hub.journal.accepted = (fresh config).along admissions steps :=
    accepted_run_eq_along (fresh config) steps
  have horderly : engine.hub.journal.handed =
      engine.hub.journal.settled ++ engine.writer.underway := orderly_run config steps
  have hbooked : engine.hub.journal.Accounted := (booked_run config steps).accounted
  have hheld : engine.outflow.held =
      engine.writer.assembly ++ engine.writer.aside.toList ++ engine.hub.pending := rfl
  have hsessions := Session.length_commands engine.hub.journal.sessions.reverse
  have hleftover := ((List.reverse_perm engine.hub.journal.sessions).flatMap_right
    Session.leftover).length_eq
  have hplaces := congrArg List.length (accepted_run config steps)
  rw [hbooked.commands, hbooked.batches, horderly, settled_run, List.flatten_append,
    List.length_append, hleftover] at hsessions
  rw [haccepted, List.length_append, hsessions, hheld, List.length_append, List.length_append]
    at hplaces
  rw [hplaces, Writer.length_batch]
  omega

-- The account of the way out of an engine whose queue has taken in these commands and whose link
-- has given these answers.
structure Ledger (engine : Engine) (accepted : List Command) (answers : List Event) : Prop where
  queued : engine.hub.counters.commandsQueued = UInt64.ofNat accepted.length
  batches : engine.hub.counters.batchesWritten =
    UInt64.ofNat (answers.filterMap Event.written?).length
  failures : engine.hub.counters.writeFailures =
    UInt64.ofNat (answers.filterMap Event.lost?).length
  -- together they are the writes that have returned
  returns : engine.hub.counters.batchesWritten + engine.hub.counters.writeFailures =
    UInt64.ofNat (answers.countP Event.isReturn)
  -- the bytes are those of the batches, and of their commands with a delimiter each
  wire : engine.hub.counters.bytesWritten =
    UInt64.ofNat ((answers.filterMap Event.written?).flatMap Batch.wire).length
  bytes : engine.hub.counters.bytesWritten =
    UInt64.ofNat (Batch.size (answers.filterMap Event.written?).flatten)
  -- each command is in one place, and at most one of them is outside a batch and the queue
  places : accepted.length =
    (answers.filterMap Event.written?).flatten.length +
      (answers.filterMap Event.lost?).flatten.length +
      (answers.filterMap Event.crashed?).flatten.length + engine.hub.pending.length +
      (engine.writer.batch.length + engine.writer.aside.toList.length) +
      (engine.hub.journal.sessions.flatMap Session.leftover).length
  aside : engine.writer.aside.toList.length ≤ 1
  -- a session leaves at most one behind, and none before it ends
  sessions : engine.hub.journal.sessions.length = engine.hub.journal.openings
  leftover : ∀ session ∈ engine.hub.journal.sessions, session.leftover.length ≤ 1
  current : engine.writer ≠ .ended → ∃ current earlier,
    engine.hub.journal.sessions = current :: earlier ∧ current.leftover = []

theorem ledger_of_run (config : Config) (steps : List Step) :
    ((fresh config).run steps).Ledger ((fresh config).along admissions steps)
      ((fresh config).along answered steps) := by
  have htallies := tallies_run (fresh config) steps
  have hbatches := htallies.batchesWritten.trans (UInt64.zero_add _)
  have hfailures := htallies.writeFailures.trans (UInt64.zero_add _)
  have hbytes := htallies.bytesWritten.trans (UInt64.zero_add _)
  obtain ⟨haccounted, hsession⟩ := booked_run config steps
  constructor
  case queued => exact htallies.commandsQueued.trans (UInt64.zero_add _)
  case batches => exact hbatches
  case failures => exact hfailures
  case returns => rw [hbatches, hfailures, ← UInt64.ofNat_add, Event.countP_isReturn]
  case wire =>
    rw [hbytes, ← Batch.length_wire, Batch.wire_flatten]
  case bytes => exact hbytes
  case places => rw [length_accepted, Event.length_settled]; omega
  case aside =>
    cases ((fresh config).run steps).writer.aside with
    | none => exact Nat.zero_le 1
    | some command => exact Nat.le_refl 1
  case sessions => exact haccounted.openings
  case leftover => exact haccounted.leftover
  case current => exact hsession

theorem crashed_answered (engine : Engine) {step : Step} (h : step ≠ .write .crashed) :
    (engine.answered step).filterMap Event.crashed? = [] := by
  cases step with
  | write outcome =>
    simp only [answered]
    split
    next =>
      cases outcome with
      | written => rfl
      | failed => rfl
      | crashed => exact absurd rfl h
    next => rfl
  | read outcome =>
    simp only [answered]
    split
    next => rfl
    next =>
      split
      next => rfl
      next => rfl
    next => rfl
  | _ => rfl

theorem crashed_along (engine : Engine) {steps : List Step} (h : .write .crashed ∉ steps) :
    (engine.along answered steps).filterMap Event.crashed? = [] := by
  induction steps generalizing engine with
  | nil => rfl
  | cons step steps ih =>
    obtain ⟨hhead, htail⟩ := List.ne_and_not_mem_of_not_mem_cons h
    rw [along, List.filterMap_append, crashed_answered engine hhead.symm, ih _ htail]
    rfl

-- The books of a run are right at every point of it. No command is lost in a crash where no write
-- crashes, and what comes when the queue is gone is not counted.
theorem ledger_run (config : Config) (steps : List Step) :
    ((fresh config).run steps).Ledger ((fresh config).along admissions steps)
        ((fresh config).along answered steps) ∧
      (.write .crashed ∉ steps →
        ((fresh config).along answered steps).filterMap Event.crashed? = []) ∧
      ∀ hub : Hub, hub.accepting = false → ∀ commands : List Command,
        (commands.foldl Hub.push hub).counters = hub.counters :=
  ⟨ledger_of_run config steps, crashed_along (fresh config), fun _ => Hub.counters_foldl_push⟩

-- One of three commands is written and one is lost. The third one was never accepted.
theorem ledger_run_refused :
    let steps : List Step := [.connect none, .push [0x30, 0x4F], .resume, .receive, .confirm, .ship,
      .write .written, .push [0x30, 0x43], .retire, .resume, .receive, .confirm, .ship,
      .write .failed, .push [0x31, 0x4F]]
    let counters := ((fresh {}).run steps).hub.counters
    counters.commandsQueued = 2 ∧ counters.batchesWritten + counters.writeFailures = 2 ∧
      counters.bytesWritten = 3 ∧
      ((fresh {}).along answered steps).filterMap Event.crashed? = [] ∧
      (Hub.push ({} : Hub).dropQueue [0x31, 0x4F]).counters = {} := by
  intro steps counters
  obtain ⟨hledger, hcrashed, hrefused⟩ := ledger_run {} steps
  refine ⟨hledger.queued.trans (by decide), hledger.returns.trans (by decide),
    hledger.bytes.trans (by decide), hcrashed (by simp [steps]), ?_⟩
  exact hrefused ({} : Hub).dropQueue rfl [[0x31, 0x4F]]

end Engine

end QuadCan
