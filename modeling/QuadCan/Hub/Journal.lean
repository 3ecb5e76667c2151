import QuadCan.Hub.Event

namespace QuadCan

-- What happened, the latest event first.
abbrev Journal := List Event

namespace Journal

-- What the events say to a question, in the order in which they happened.
def select (question : Event → Option α) (journal : Journal) : List α :=
  journal.reverse.filterMap question

theorem select_append (question : Event → Option α) (later earlier : Journal) :
    select question (later ++ earlier) = select question earlier ++ select question later := by
  simp only [select, List.reverse_append, List.filterMap_append]

-- The part of a journal that was not there before.
def since (before now : Journal) : Journal :=
  now.take (now.length - before.length)

-- The commands that the queue took in.
def accepted : Journal → List Command :=
  select fun
    | .accepted command => some command
    | _ => none

theorem accepted_append (later earlier : Journal) :
    accepted (later ++ earlier) = accepted earlier ++ accepted later :=
  select_append _ later earlier

theorem accepted_cons (event : Event) (journal : Journal) :
    accepted (event :: journal) = journal.accepted ++ accepted [event] :=
  select_append _ [event] journal

-- The batches that were handed to the link.
def handed : Journal → List (List Command) :=
  select fun
    | .handed batch => some batch
    | _ => none

theorem handed_cons (event : Event) (journal : Journal) :
    handed (event :: journal) = journal.handed ++ handed [event] :=
  select_append _ [event] journal

theorem handed_cons_of_nil {event : Event} (journal : Journal) (h : handed [event] = []) :
    handed (event :: journal) = journal.handed := by
  rw [handed_cons, h, List.append_nil]

-- The batches that the link wrote.
def written : Journal → List (List Command) :=
  select fun
    | .written batch => some batch
    | _ => none

-- The lines that came in.
def received : Journal → List Bytes :=
  select fun
    | .received line => some line
    | _ => none

-- The notes of observers.
def notes : Journal → List (String × Frame) :=
  select fun
    | .noted tag frame => some (tag, frame)
    | _ => none

-- The messages in the log.
def messages : Journal → List (LogLevel × String) :=
  select Event.log?

-- How often the link opened.
def openings (journal : Journal) : Nat :=
  journal.countP fun
    | .connected => true
    | _ => false

-- How often the link was asked to open.
def attempts (journal : Journal) : Nat :=
  journal.countP fun
    | .connected | .unreachable _ => true
    | _ => false

-- How often the link was let go.
def closings (journal : Journal) : Nat :=
  journal.countP fun
    | .disconnected => true
    | _ => false

end Journal

end QuadCan
