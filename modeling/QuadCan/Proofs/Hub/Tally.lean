import QuadCan.Proofs.Batch.Wire
import QuadCan.Proofs.Hub.Roster
import QuadCan.Proofs.Line.Kinds

namespace QuadCan

namespace Event

-- What an event adds to the counters. A line moves the counter of all lines and the one of its
-- kind, if that has one.
def count : Event → Counters → Counters
  | accepted _, counters => { counters with commandsQueued := counters.commandsQueued + 1 }
  | received line, counters =>
      let counters := { counters with linesReceived := counters.linesReceived + 1 }
      match LineKind.of line with
      | .empty => counters
      | .frame => { counters with framesDelivered := counters.framesDelivered + 1 }
      | .noise => { counters with nonFrameLines := counters.nonFrameLines + 1 }
      | .damaged => { counters with linesDropped := counters.linesDropped + 1 }
  | readFailed _, counters => { counters with readErrors := counters.readErrors + 1 }
  | written batch, counters =>
      { counters with
        batchesWritten := counters.batchesWritten + 1
        bytesWritten := counters.bytesWritten + UInt64.ofNat (Batch.size batch) }
  | lost _, counters => { counters with writeFailures := counters.writeFailures + 1 }
  | _, counters => counters

-- What the link answers to a loop: a line or an error, or how a write came out.
def isAnswer : Event → Bool
  | received _ | readFailed _ | written _ | lost _ | crashed _ => true
  | _ => false

def line? : Event → Option Bytes
  | received line => some line
  | _ => none

def error? : Event → Option StreamError
  | readFailed error => some error
  | _ => none

def written? : Event → Option (List Command)
  | written batch => some batch
  | _ => none

def lost? : Event → Option (List Command)
  | lost batch => some batch
  | _ => none

def crashed? : Event → Option (List Command)
  | crashed batch => some batch
  | _ => none

-- What is neither an answer nor a new command is not counted.
def isSilent : Event → Bool
  | accepted _ => false
  | event => !event.isAnswer

theorem count_of_isSilent {event : Event} (h : event.isSilent = true) (counters : Counters) :
    event.count counters = counters := by
  cases event with
  | accepted | received | readFailed | written | lost => cases h
  | _ => rfl

end Event

namespace Journal

-- The answers of the link, in the order in which they came.
def answers : Journal → List Event :=
  select fun event => if event.isAnswer then some event else none

theorem answers_append (later earlier : Journal) :
    answers (later ++ earlier) = answers earlier ++ answers later :=
  select_append _ later earlier

-- A question about answers can be put to them alone.
theorem select_eq_filterMap_answers {question : Event → Option α}
    (h : ∀ event, event.isAnswer = false → question event = none) (journal : Journal) :
    select question journal = journal.answers.filterMap question := by
  have hquestion : question = fun event =>
      (if event.isAnswer then some event else none).bind question := by
    funext event
    by_cases hanswer : event.isAnswer = true
    · rw [if_pos hanswer, Option.bind_some]
    · rw [if_neg hanswer, h event (Bool.eq_false_iff.mpr hanswer), Option.bind_none]
  rw [answers, select, select, List.filterMap_filterMap, ← hquestion]

end Journal

namespace Hub

-- What happens at a hub is in its journal, the counters are those of the events, and the answers
-- among them are these.
def Books (before after : Hub) (answers : List Event) : Prop :=
  ∃ events : Journal, after.journal = events ++ before.journal ∧
    after.counters = events.foldr Event.count before.counters ∧ events.answers = answers

variable {first second third : Hub} {answers others : List Event}

theorem Books.refl (hub : Hub) : hub.Books hub [] :=
  ⟨[], rfl, rfl, rfl⟩

theorem Books.trans (h : first.Books second answers) (h' : second.Books third others) :
    first.Books third (answers ++ others) := by
  obtain ⟨earlier, hearlier, hcounters, rfl⟩ := h
  obtain ⟨later, hlater, hcounters', rfl⟩ := h'
  refine ⟨later ++ earlier, ?_, ?_, Journal.answers_append later earlier⟩
  · rw [hlater, hearlier, List.append_assoc]
  · rw [hcounters', hcounters, List.foldr_append]

-- One event is written down and counted.
theorem books_of_event {event : Event} (hjournal : second.journal = event :: first.journal)
    (hcounters : second.counters = event.count first.counters) :
    first.Books second (Journal.answers [event]) :=
  ⟨[event], hjournal, hcounters, rfl⟩

-- The journal and the counters stay as they are.
theorem books_of_eq (hjournal : second.journal = first.journal)
    (hcounters : second.counters = first.counters) : first.Books second [] :=
  ⟨[], hjournal, hcounters, rfl⟩

theorem books_log (hub : Hub) {event : Event} (h : event.isSilent = true) :
    hub.Books (hub.log event) [] := by
  have hanswers : Journal.answers [event] = [] := by
    cases event with
    | received | readFailed | written | lost | crashed => cases h
    | _ => rfl
  rw [← hanswers]
  exact books_of_event rfl (Event.count_of_isSilent h _).symm

theorem books_push (hub : Hub) (command : Command) : hub.Books (hub.push command) [] := by
  unfold push
  split
  next => exact ⟨[.accepted command], rfl, rfl, rfl⟩
  next => exact books_log hub rfl

theorem books_foldl {step : Hub → α → Hub} {answered : α → List Event}
    (hstep : ∀ (hub : Hub) input, hub.Books (step hub input) (answered input)) (hub : Hub)
    (inputs : List α) : hub.Books (inputs.foldl step hub) (inputs.flatMap answered) := by
  induction inputs generalizing hub with
  | nil => exact .refl hub
  | cons input inputs ih => exact (hstep hub input).trans (ih _)

-- Where no step brings an answer there is none in the end.
theorem books_foldl_nil {step : Hub → α → Hub}
    (hstep : ∀ (hub : Hub) input, hub.Books (step hub input) []) (hub : Hub) (inputs : List α) :
    hub.Books (inputs.foldl step hub) [] := by
  have hnil : inputs.flatMap (fun _ => ([] : List Event)) = [] := by simp
  rw [← hnil]
  exact books_foldl hstep hub inputs

theorem books_call (hub : Hub) (channel : Channel) (operation : Operation) :
    hub.Books (hub.call channel operation).2 [] := by
  unfold call
  split
  next => exact books_foldl_nil books_push hub _
  next => exact .refl hub

theorem books_act (hub : Hub) (channel : Channel) (frame : Frame) (action : Action) :
    hub.Books (hub.act channel frame action) [] := by
  cases action with
  | send => exact books_push hub _
  | note => exact books_log hub rfl
  | panic => exact books_log hub rfl
  | _ => exact books_of_eq rfl rfl

theorem books_advance (hub : Hub) (delivery : Delivery) :
    hub.Books (hub.advance delivery).1 [] := by
  unfold advance
  split
  next => exact books_act hub _ _ _
  next => exact books_log hub rfl
  next => exact .refl hub

theorem books_consult (channel : Channel) (frame : Frame) (hub : Hub) (entry : Observer × Nat) :
    hub.Books (consult channel frame hub entry) [] := by
  have hcalled : hub.Books (hub.log (.called channel entry.2 frame)) [] := books_log hub rfl
  exact hcalled.trans (books_foldl_nil (fun hub => books_act hub channel frame) _ _)

-- A line is counted as what it is, and that it came is the only answer.
theorem books_receive (hub : Hub) (line : Bytes) :
    hub.Books (hub.receive line).1 [.received line] := by
  cases line with
  | nil => exact ⟨[.received []], rfl, rfl, rfl⟩
  | cons byte line =>
    have hkind : LineKind.of (byte :: line) =
      LineKind.ofResult (Frame.parse (route (byte :: line)).2) := rfl
    simp only [receive, classify]
    split
    next frame hparse =>
      refine ⟨[.received (byte :: line)], rfl, ?_, rfl⟩
      simp [Event.count, hkind, hparse, LineKind.ofResult, count, log]
    next cause hparse =>
      by_cases hcause : cause.isNoise = true
      · rw [if_pos hcause]
        refine ⟨[.noise _ _, .received (byte :: line)], rfl, ?_, rfl⟩
        simp [Event.count, hkind, hparse, hcause, LineKind.ofResult, count, log]
      · rw [if_neg hcause]
        refine ⟨[.dropped _ _ cause, .received (byte :: line)], rfl, ?_, rfl⟩
        simp [Event.count, hkind, hparse, hcause, LineKind.ofResult, count, log]

-- Whatever the observers of a line do, it is counted once.
theorem books_dispatch (hub : Hub) (line : Bytes) :
    hub.Books (hub.dispatch line) [.received line] := by
  rw [dispatch_eq]
  have hreceive := books_receive hub line
  cases hub.roster.delivery? line with
  | none => exact hreceive
  | some delivery => exact hreceive.trans (books_foldl_nil (books_consult _ _) _ _)

end Hub

-- The counters before and after the queue has taken in these commands and the link has given
-- these answers.
structure Counters.Tallies (before after : Counters) (commands : List Command)
    (answers : List Event) : Prop where
  linesReceived : after.linesReceived =
    before.linesReceived + UInt64.ofNat (answers.filterMap Event.line?).length
  framesDelivered : after.framesDelivered = before.framesDelivered +
    UInt64.ofNat ((answers.filterMap Event.line?).countP (LineKind.of · = .frame))
  linesDropped : after.linesDropped = before.linesDropped +
    UInt64.ofNat ((answers.filterMap Event.line?).countP (LineKind.of · = .damaged))
  nonFrameLines : after.nonFrameLines = before.nonFrameLines +
    UInt64.ofNat ((answers.filterMap Event.line?).countP (LineKind.of · = .noise))
  readErrors : after.readErrors =
    before.readErrors + UInt64.ofNat (answers.filterMap Event.error?).length
  commandsQueued : after.commandsQueued = before.commandsQueued + UInt64.ofNat commands.length
  batchesWritten : after.batchesWritten =
    before.batchesWritten + UInt64.ofNat (answers.filterMap Event.written?).length
  bytesWritten : after.bytesWritten = before.bytesWritten +
    UInt64.ofNat (Batch.size (answers.filterMap Event.written?).flatten)
  writeFailures : after.writeFailures =
    before.writeFailures + UInt64.ofNat (answers.filterMap Event.lost?).length

namespace Counters

variable {first second third : Counters} {commands : List Command} {answers : List Event}

theorem Tallies.refl (counters : Counters) : counters.Tallies counters [] [] := by
  constructor <;> simp [Batch.size]

theorem Tallies.trans {others : List Command} {later : List Event}
    (h : first.Tallies second commands answers) (h' : second.Tallies third others later) :
    first.Tallies third (commands ++ others) (answers ++ later) where
  linesReceived := by simp [h'.linesReceived, h.linesReceived, UInt64.add_assoc]
  framesDelivered := by simp [h'.framesDelivered, h.framesDelivered, UInt64.add_assoc]
  linesDropped := by simp [h'.linesDropped, h.linesDropped, UInt64.add_assoc]
  nonFrameLines := by simp [h'.nonFrameLines, h.nonFrameLines, UInt64.add_assoc]
  readErrors := by simp [h'.readErrors, h.readErrors, UInt64.add_assoc]
  commandsQueued := by simp [h'.commandsQueued, h.commandsQueued, UInt64.add_assoc]
  batchesWritten := by simp [h'.batchesWritten, h.batchesWritten, UInt64.add_assoc]
  bytesWritten := by
    simp [h'.bytesWritten, h.bytesWritten, UInt64.add_assoc, Batch.size_append]
  writeFailures := by simp [h'.writeFailures, h.writeFailures, UInt64.add_assoc]

private theorem tallies_answer {event : Event} (h : event.isAnswer = true) (counters : Counters) :
    counters.Tallies (event.count counters) [] [event] := by
  cases event with
  | received line =>
    cases hkind : LineKind.of line with
    | _ =>
      constructor <;> simp [Event.count, hkind, List.filterMap_cons, Event.line?, Event.error?,
        Event.written?, Event.lost?, Batch.size]
  | readFailed | written | lost | crashed =>
    constructor <;> simp [Event.count, List.filterMap_cons, Event.line?, Event.error?,
      Event.written?, Event.lost?, Batch.size]
  | _ => cases h

theorem tallies_count (event : Event) (counters : Counters) :
    counters.Tallies (event.count counters) (Journal.accepted [event])
      (Journal.answers [event]) := by
  cases event with
  | received | readFailed | written | lost | crashed => exact tallies_answer rfl counters
  | accepted command =>
    have haccepted : Journal.accepted [.accepted command] = [command] := rfl
    have hanswers : Journal.answers [.accepted command] = [] := rfl
    rw [haccepted, hanswers]
    constructor <;> simp [Event.count, Batch.size]
  | _ => exact .refl counters

theorem tallies_foldr (counters : Counters) (events : Journal) :
    counters.Tallies (events.foldr Event.count counters) events.accepted events.answers := by
  induction events with
  | nil => exact .refl counters
  | cons event events ih =>
    rw [Journal.accepted_cons, ← List.singleton_append, Journal.answers_append]
    exact ih.trans (tallies_count event _)

end Counters

-- The counters of a hub say how many commands and answers there were.
theorem Hub.Books.tallies {before after : Hub} {commands : List Command} {answers : List Event}
    (h : before.Books after answers)
    (haccepted : after.journal.accepted = before.journal.accepted ++ commands) :
    before.counters.Tallies after.counters commands answers := by
  obtain ⟨events, hjournal, hcounters, rfl⟩ := h
  rw [hjournal, Journal.accepted_append, List.append_right_inj] at haccepted
  rw [hcounters, ← haccepted]
  exact Counters.tallies_foldr _ events

end QuadCan
