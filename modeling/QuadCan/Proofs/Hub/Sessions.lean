import QuadCan.Hub.Journal

namespace QuadCan

-- What becomes of a command that leaves the queue: it is handed over in a batch,
-- or it is left behind when its session ends.
inductive Fate where
  | handed
  | abandoned
deriving DecidableEq, Repr

def Event.fates : Event → List (Command × Fate)
  | .handed batch => batch.map (·, .handed)
  | .abandoned command => [(command, .abandoned)]
  | _ => []

-- One session of the link: the batches that it handed over, and what it left
-- behind in the end.
structure Session where
  batches : List (List Command) := []
  leftover : List Command := []
deriving DecidableEq, Repr

def Session.commands (session : Session) : List Command :=
  session.batches.flatten ++ session.leftover

def Session.hand (batch : List Command) (session : Session) : Session :=
  { session with batches := session.batches ++ [batch] }

def Session.leave (command : Command) (session : Session) : Session :=
  { session with leftover := session.leftover ++ [command] }

namespace Journal

def fates (journal : Journal) : List (Command × Fate) :=
  journal.reverse.flatMap Event.fates

theorem fates_append (later earlier : Journal) :
    fates (later ++ earlier) = fates earlier ++ fates later := by
  simp only [fates, List.reverse_append, List.flatMap_append]

theorem fates_singleton (event : Event) : fates [event] = event.fates :=
  List.append_nil _

theorem fates_cons (event : Event) (journal : Journal) :
    fates (event :: journal) = journal.fates ++ event.fates := by
  have happend := fates_append [event] journal
  rwa [fates_singleton] at happend

theorem openings_cons (event : Event) (journal : Journal) :
    openings (event :: journal) = openings [event] + journal.openings := by
  rw [← List.singleton_append, openings, List.countP_append]
  rfl

-- The sessions, the latest one first.
def sessions : Journal → List Session
  | [] => []
  | .connected :: journal => {} :: sessions journal
  | .handed batch :: journal => (sessions journal).modifyHead (.hand batch)
  | .abandoned command :: journal => (sessions journal).modifyHead (.leave command)
  | _ :: journal => sessions journal

-- Every batch and every command left behind is booked in one session, in order.
structure Accounted (journal : Journal) : Prop where
  commands : journal.sessions.reverse.flatMap Session.commands = journal.fates.map Prod.fst
  batches : journal.sessions.reverse.flatMap Session.batches = journal.handed
  leftover : ∀ session ∈ journal.sessions, session.leftover.length ≤ 1
  openings : journal.sessions.length = journal.openings

-- The latest session has not left anything behind yet.
def InSession (journal : Journal) : Prop :=
  ∃ current earlier, journal.sessions = current :: earlier ∧ current.leftover = []

variable {journal : Journal}

theorem accounted_nil : Accounted [] :=
  ⟨rfl, rfl, fun _ h => absurd h List.not_mem_nil, rfl⟩

theorem Accounted.cons (h : journal.Accounted) {event : Event}
    (hsessions : sessions (event :: journal) = journal.sessions) (hfates : event.fates = [])
    (hhanded : handed [event] = []) (hopenings : Journal.openings [event] = 0) :
    Accounted (event :: journal) := by
  constructor
  · rw [hsessions, fates_cons, hfates, List.append_nil]
    exact h.commands
  · rw [hsessions, handed_cons, hhanded, List.append_nil]
    exact h.batches
  · rw [hsessions]
    exact h.leftover
  · rw [hsessions, openings_cons, hopenings, Nat.zero_add]
    exact h.openings

theorem Accounted.connected (h : journal.Accounted) : Accounted (.connected :: journal) := by
  have hsessions : sessions (.connected :: journal) = {} :: journal.sessions := rfl
  constructor
  · rw [hsessions, List.reverse_cons, List.flatMap_append, h.commands, fates_cons, List.map_append]
    rfl
  · rw [hsessions, List.reverse_cons, List.flatMap_append, h.batches, handed_cons]
    rfl
  · intro session hsession
    rw [hsessions] at hsession
    rcases List.mem_cons.1 hsession with rfl | hmem
    · exact Nat.zero_le 1
    · exact h.leftover session hmem
  · rw [hsessions, List.length_cons, h.openings, openings_cons]
    exact Nat.add_comm _ _

theorem inSession_connected (journal : Journal) : InSession (.connected :: journal) :=
  ⟨{}, journal.sessions, rfl, rfl⟩

-- An event that is booked in the latest session.
private theorem Accounted.book (h : journal.Accounted) {event : Event} {current now : Session}
    {earlier : List Session} (hsessions : journal.sessions = current :: earlier)
    (hnow : sessions (event :: journal) = now :: earlier)
    (hcommands : now.commands = current.commands ++ event.fates.map Prod.fst)
    (hbatches : now.batches = current.batches ++ handed [event])
    (hleftover : now.leftover.length ≤ 1) (hopenings : Journal.openings [event] = 0) :
    Accounted (event :: journal) := by
  have hearlier (session : Session) (hmem : session ∈ earlier) : session.leftover.length ≤ 1 :=
    h.leftover session (by rw [hsessions]; exact List.mem_cons_of_mem _ hmem)
  constructor
  · rw [hnow, fates_cons, List.map_append, ← h.commands, hsessions]
    simp [hcommands]
  · rw [hnow, handed_cons, ← h.batches, hsessions]
    simp [hbatches]
  · intro session hmem
    rw [hnow] at hmem
    rcases List.mem_cons.1 hmem with rfl | hmem
    · exact hleftover
    · exact hearlier session hmem
  · rw [hnow, openings_cons, hopenings, Nat.zero_add, ← h.openings, hsessions]
    rfl

theorem map_fates_handed (batch : List Command) :
    (Event.handed batch).fates.map Prod.fst = batch := by
  rw [Event.fates, List.map_map]
  exact List.map_id batch

theorem Accounted.handed (h : journal.Accounted) (hsession : journal.InSession)
    (batch : List Command) :
    Accounted (.handed batch :: journal) ∧ InSession (.handed batch :: journal) := by
  obtain ⟨current, earlier, hsessions, hleftover⟩ := hsession
  have hnow : sessions (.handed batch :: journal) = current.hand batch :: earlier := by
    rw [sessions, hsessions]
    rfl
  refine ⟨h.book hsessions hnow ?_ rfl ?_ rfl, current.hand batch, earlier, hnow, hleftover⟩
  · rw [map_fates_handed]
    simp [Session.commands, Session.hand, hleftover]
  · simp [Session.hand, hleftover]

theorem Accounted.abandoned (h : journal.Accounted) (hsession : journal.InSession)
    (command : Command) : Accounted (.abandoned command :: journal) := by
  obtain ⟨current, earlier, hsessions, hleftover⟩ := hsession
  have hnow : sessions (.abandoned command :: journal) = current.leave command :: earlier := by
    rw [sessions, hsessions]
    rfl
  refine h.book hsessions hnow ?_ ?_ ?_ rfl
  · simp [Session.commands, Session.leave, Event.fates]
  · simp [Session.leave, Journal.handed, select]
  · simp [Session.leave, hleftover]

end Journal

end QuadCan
