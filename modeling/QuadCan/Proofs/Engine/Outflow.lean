import QuadCan.Engine.Basic

namespace QuadCan

-- The way out of an engine: the queue, the phase of the link, where the write
-- loop stands and what has been written down so far.
structure Outflow where
  limit : Nat
  phase : Phase
  accepting : Bool
  pending : List Command
  writer : Writer
  journal : Journal

-- An event on the way out.
def Event.isOutbound : Event → Bool
  | .accepted _ | .handed _ | .written _ | .lost _ | .crashed _ | .abandoned _ | .connected => true
  | _ => false

-- The end of a write that was handed over.
inductive Event.Settles (batch : List Command) : Event → Prop where
  | written : Settles batch (.written batch)
  | lost : Settles batch (.lost batch)
  | crashed : Settles batch (.crashed batch)

namespace Outflow

def log (outflow : Outflow) (event : Event) : Outflow :=
  { outflow with journal := event :: outflow.journal }

def accept (outflow : Outflow) (command : Command) : Outflow :=
  { outflow with pending := outflow.pending ++ [command] }.log (.accepted command)

-- All that can happen on the way out, apart from new commands. What the read
-- loop does is of no interest here.
inductive Move : Outflow → Outflow → Prop where
  | note (before : Outflow) {event : Event} (hevent : event.isOutbound = false) :
      Move before (before.log event)
  | turn (before : Outflow) {phase : Phase} (hended : phase = .closed → before.writer = .ended) :
      Move before { before with phase := phase }
  | begin (before : Outflow) (hwriter : before.writer = .ended) :
      Move before ({ before with phase := .running, writer := .idle none }.log .connected)
  | wait (before : Outflow) (hphase : before.phase = .running)
      (hwriter : before.writer = .idle none) : Move before { before with writer := .waiting }
  | retake (before : Outflow) {command : Command} (hphase : before.phase = .running)
      (hwriter : before.writer = .idle (some command)) :
      Move before { before with writer := .holding command }
  | receive (before : Outflow) {command : Command} {rest : List Command}
      (hwriter : before.writer = .waiting) (hpending : before.pending = command :: rest) :
      Move before { before with writer := .holding command, pending := rest }
  | confirm (before : Outflow) {command : Command} (hphase : before.phase = .running)
      (hwriter : before.writer = .holding command) :
      Move before { before with writer := .gathering [command] }
  | join (before : Outflow) {batch : List Command} {command : Command} {rest : List Command}
      (hwriter : before.writer = .gathering batch) (hpending : before.pending = command :: rest)
      (hfit : Batch.fit before.limit (Batch.size batch) command = .joins) :
      Move before { before with writer := .gathering (batch ++ [command]), pending := rest }
  | overflow (before : Outflow) {batch : List Command} {command : Command} {rest : List Command}
      (hwriter : before.writer = .gathering batch) (hpending : before.pending = command :: rest)
      (hfit : Batch.fit before.limit (Batch.size batch) command = .overflows) :
      Move before
        ({ before with writer := .writing batch (some command), pending := rest }.log
          (.handed batch))
  | ship (before : Outflow) {batch : List Command} (hwriter : before.writer = .gathering batch) :
      Move before ({ before with writer := .writing batch none }.log (.handed batch))
  | settle (before : Outflow) {batch : List Command} {carry : Option Command} {event : Event}
      (hwriter : before.writer = .writing batch carry) (hevent : event.Settles batch) :
      Move before ({ before with writer := .idle carry }.log event)
  | stop (before : Outflow) (hwriter : before.writer = .idle none ∨ before.writer = .waiting) :
      Move before { before with writer := .ended }
  | abandon (before : Outflow) {command : Command}
      (hwriter : before.writer = .idle (some command) ∨ before.writer = .holding command) :
      Move before ({ before with writer := .ended }.log (.abandoned command))

-- Any number of moves, with the commands that the queue takes in between.
inductive Moves (first : Outflow) : List Command → Outflow → Prop where
  | refl : Moves first [] first
  | move {commands : List Command} {before after : Outflow} (hmoves : Moves first commands before)
      (hmove : Move before after) : Moves first commands after
  | accept {commands : List Command} {before : Outflow} (hmoves : Moves first commands before)
      (haccepting : before.accepting = true) (command : Command) :
      Moves first (commands ++ [command]) (before.accept command)

variable {first second third : Outflow} {commands others : List Command}

theorem Move.moves (hmove : Move first second) : Moves first [] second :=
  Moves.refl.move hmove

theorem Moves.trans (h : Moves first commands second) (h' : Moves second others third) :
    Moves first (commands ++ others) third := by
  induction h' with
  | refl =>
    rw [List.append_nil]
    exact h
  | move _ hmove ih => exact ih.move hmove
  | accept _ haccepting command ih =>
    rw [← List.append_assoc]
    exact ih.accept haccepting command

-- What holds on the way out holds after every move, whatever the queue takes in
-- and also when no caller is left.
structure Invariant (Holds : Outflow → Prop) : Prop where
  move : ∀ {before after : Outflow}, Move before after → Holds before → Holds after
  accept : ∀ {before : Outflow} (command : Command),
    Holds before → Holds (before.accept command)
  retire : ∀ {before : Outflow}, Holds before → Holds { before with accepting := false }

theorem Invariant.moves {Holds : Outflow → Prop} (hinvariant : Invariant Holds)
    (h : Moves first commands second) (hfirst : Holds first) : Holds second := by
  induction h with
  | refl => exact hfirst
  | move _ hmove ih => exact hinvariant.move hmove ih
  | accept _ _ command ih => exact hinvariant.accept command ih

theorem Move.accepting (hmove : Move first second) : second.accepting = first.accepting := by
  cases hmove with
  | _ => rfl

theorem Moves.accepting (h : Moves first commands second) :
    second.accepting = first.accepting := by
  induction h with
  | refl => rfl
  | move _ hmove ih => exact hmove.accepting.trans ih
  | accept _ _ _ ih => exact ih

private theorem accepted_log (outflow : Outflow) {event : Event}
    (hevent : Journal.accepted [event] = []) :
    (outflow.log event).journal.accepted = outflow.journal.accepted := by
  rw [log, Journal.accepted_cons, hevent, List.append_nil]

theorem Move.accepted (hmove : Move first second) :
    second.journal.accepted = first.journal.accepted := by
  cases hmove with
  | @note event hevent =>
    cases event with
    | accepted => cases hevent
    | _ => exact accepted_log _ rfl
  | begin => exact accepted_log _ rfl
  | overflow => exact accepted_log _ rfl
  | ship => exact accepted_log _ rfl
  | settle _ hevent =>
    cases hevent with
    | _ => exact accepted_log _ rfl
  | abandon => exact accepted_log _ rfl
  | _ => rfl

-- The queue takes in what the moves say and nothing else.
theorem Moves.accepted (h : Moves first commands second) :
    second.journal.accepted = first.journal.accepted ++ commands := by
  induction h with
  | refl => exact (List.append_nil _).symm
  | move _ hmove ih => exact hmove.accepted.trans ih
  | @accept _ before _ _ command ih =>
    have hcons := Journal.accepted_cons (.accepted command) before.journal
    rw [ih, List.append_assoc] at hcons
    exact hcons

end Outflow

end QuadCan
