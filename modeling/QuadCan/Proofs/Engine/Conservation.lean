import QuadCan.Proofs.Engine.Refinement
import QuadCan.Proofs.Hub.Sessions

namespace QuadCan

namespace Writer

-- The batch in the making.
def assembly : Writer → List Command
  | .gathering batch => batch
  | _ => []

-- The command that is to begin the next batch.
def aside : Writer → Option Command
  | .idle carry => carry
  | .holding command => some command
  | .writing _ carry => carry
  | _ => none

def inHand (writer : Writer) : List Command :=
  writer.assembly ++ writer.aside.toList

end Writer

namespace Outflow

variable {before after : Outflow}

-- The commands that are on their way out.
def held (outflow : Outflow) : List Command :=
  outflow.writer.inHand ++ outflow.pending

-- What is on its way out and what the queue takes in meanwhile leaves in this
-- order or is on its way out still.
def Exchanges (before after : Outflow) : Prop :=
  ∃ events : Journal, after.journal = events ++ before.journal ∧
    before.held ++ Journal.accepted events =
      (Journal.fates events).map Prod.fst ++ after.held

theorem Exchanges.trans {first second third : Outflow} (h : Exchanges first second)
    (h' : Exchanges second third) : Exchanges first third := by
  obtain ⟨earlier, hearlier, hheld⟩ := h
  obtain ⟨later, hlater, hheld'⟩ := h'
  refine ⟨later ++ earlier, by rw [hlater, hearlier, List.append_assoc], ?_⟩
  rw [Journal.accepted_append, Journal.fates_append, List.map_append, ← List.append_assoc, hheld,
    List.append_assoc, hheld', List.append_assoc]

private theorem exchanges_of_writer {writer : Writer} (hwriter : before.writer = writer)
    (hjournal : after.journal = before.journal)
    (hheld : after.held = writer.inHand ++ before.pending) : Exchanges before after := by
  refine ⟨[], hjournal, ?_⟩
  rw [held, hwriter, hheld]
  exact List.append_nil _

private theorem exchanges_of_event {event : Event} {writer : Writer}
    (hwriter : before.writer = writer) (hjournal : after.journal = event :: before.journal)
    (hheld : writer.inHand ++ before.pending ++ Journal.accepted [event] =
      event.fates.map Prod.fst ++ after.held) : Exchanges before after := by
  refine ⟨[event], hjournal, ?_⟩
  rw [Journal.fates_singleton, held, hwriter]
  exact hheld

private theorem exchanges_handed {batch rest : List Command} {carry : Option Command}
    (hwriter : before.writer = .gathering batch)
    (hjournal : after.journal = .handed batch :: before.journal)
    (hafter : after.writer = .writing batch carry) (hpending : after.pending = rest)
    (hrest : before.pending = carry.toList ++ rest) : Exchanges before after := by
  refine exchanges_of_event hwriter hjournal ?_
  have haccepted : Journal.accepted [.handed batch] = [] := rfl
  rw [Journal.map_fates_handed, haccepted, List.append_nil, held, hafter, hpending, hrest]
  simp only [Writer.inHand, Writer.assembly, Writer.aside, Option.toList_none, List.append_nil,
    List.nil_append]

theorem Move.exchanges (hmove : Move before after) : Exchanges before after := by
  cases hmove with
  | @note event hevent =>
    cases event with
    | accepted | handed | abandoned => cases hevent
    | _ => exact exchanges_of_event rfl rfl (List.append_nil _)
  | turn => exact exchanges_of_writer rfl rfl rfl
  | begin hwriter => exact exchanges_of_event hwriter rfl (List.append_nil _)
  | wait _ hwriter => exact exchanges_of_writer hwriter rfl rfl
  | retake _ hwriter => exact exchanges_of_writer hwriter rfl rfl
  | receive hwriter hpending =>
    refine exchanges_of_writer hwriter rfl ?_
    rw [hpending]
    rfl
  | confirm _ hwriter => exact exchanges_of_writer hwriter rfl rfl
  | join hwriter hpending =>
    refine exchanges_of_writer hwriter rfl ?_
    rw [hpending, held]
    simp only [Writer.inHand, Writer.assembly, Writer.aside, Option.toList_none, List.append_nil,
      List.append_assoc, List.singleton_append]
  | overflow hwriter hpending => exact exchanges_handed hwriter rfl rfl rfl hpending
  | ship hwriter => exact exchanges_handed hwriter rfl rfl rfl rfl
  | settle hwriter hevent =>
    cases hevent with
    | _ => exact exchanges_of_event hwriter rfl (List.append_nil _)
  | stop hwriter =>
    rcases hwriter with hwriter | hwriter
    · exact exchanges_of_writer hwriter rfl rfl
    · exact exchanges_of_writer hwriter rfl rfl
  | abandon hwriter =>
    rcases hwriter with hwriter | hwriter
    · exact exchanges_of_event hwriter rfl (List.append_nil _)
    · exact exchanges_of_event hwriter rfl (List.append_nil _)

theorem invariant_exchanges (first : Outflow) : Invariant (Exchanges first) where
  move hmove h := h.trans hmove.exchanges
  accept _ h := h.trans (exchanges_of_event rfl rfl (List.append_assoc _ _ _))
  retire h := h.trans (exchanges_of_writer rfl rfl rfl)

-- The books are right, and while the write loop runs a session is under way.
structure Booked (outflow : Outflow) : Prop where
  accounted : outflow.journal.Accounted
  inSession : outflow.writer ≠ .ended → outflow.journal.InSession

theorem Booked.session {writer : Writer} (h : Booked before) (hwriter : before.writer = writer)
    (hrunning : writer ≠ .ended) : before.journal.InSession :=
  h.inSession (hwriter ▸ hrunning)

theorem Move.booked (hmove : Move before after) (h : Booked before) : Booked after := by
  cases hmove with
  | @note event hevent =>
    cases event with
    | accepted | handed | written | lost | crashed | abandoned | connected => cases hevent
    | _ => exact ⟨h.accounted.cons rfl rfl rfl rfl, h.inSession⟩
  | turn => exact ⟨h.accounted, h.inSession⟩
  | begin => exact ⟨h.accounted.connected, fun _ => Journal.inSession_connected _⟩
  | wait _ hwriter => exact ⟨h.accounted, fun _ => h.session hwriter nofun⟩
  | retake _ hwriter => exact ⟨h.accounted, fun _ => h.session hwriter nofun⟩
  | receive hwriter => exact ⟨h.accounted, fun _ => h.session hwriter nofun⟩
  | confirm _ hwriter => exact ⟨h.accounted, fun _ => h.session hwriter nofun⟩
  | join hwriter => exact ⟨h.accounted, fun _ => h.session hwriter nofun⟩
  | overflow hwriter =>
    obtain ⟨haccounted, hsession⟩ := h.accounted.handed (h.session hwriter nofun) _
    exact ⟨haccounted, fun _ => hsession⟩
  | ship hwriter =>
    obtain ⟨haccounted, hsession⟩ := h.accounted.handed (h.session hwriter nofun) _
    exact ⟨haccounted, fun _ => hsession⟩
  | settle hwriter hevent =>
    cases hevent with
    | _ => exact ⟨h.accounted.cons rfl rfl rfl rfl, fun _ => h.session hwriter nofun⟩
  | stop => exact ⟨h.accounted, fun hended => absurd rfl hended⟩
  | abandon hwriter =>
    have hsession : before.journal.InSession := by
      rcases hwriter with hwriter | hwriter
      · exact h.session hwriter nofun
      · exact h.session hwriter nofun
    exact ⟨h.accounted.abandoned hsession _, fun hended => absurd rfl hended⟩

theorem invariant_booked : Invariant Booked where
  move := Move.booked
  accept _ h := ⟨h.accounted.cons rfl rfl rfl rfl, h.inSession⟩
  retire h := ⟨h.accounted, h.inSession⟩

end Outflow

namespace Engine

theorem exchanges_run (engine : Engine) (steps : List Step) :
    engine.outflow.Exchanges (engine.run steps).outflow := by
  have hrefl : engine.outflow.Exchanges engine.outflow := ⟨[], rfl, List.append_nil _⟩
  exact invariant_run (Outflow.invariant_exchanges engine.outflow) hrefl steps

theorem booked_run (config : Config) (steps : List Step) :
    ((fresh config).run steps).outflow.Booked := by
  have hfresh : (fresh config).outflow.Booked := ⟨Journal.accounted_nil, fun h => absurd rfl h⟩
  exact invariant_run Outflow.invariant_booked hfresh steps

-- What the queue took in has left it, is in the hands of the write loop or still waits.
theorem accepted_run (config : Config) (steps : List Step) :
    Journal.accepted ((fresh config).run steps).hub.journal =
      (Journal.fates ((fresh config).run steps).hub.journal).map Prod.fst ++
        ((fresh config).run steps).outflow.held := by
  obtain ⟨events, hjournal, hheld⟩ := exchanges_run (fresh config) steps
  have hevents : ((fresh config).run steps).hub.journal = events := by
    rw [← outflow_journal, hjournal]
    exact List.append_nil events
  rw [hevents]
  exact hheld

-- Each command that the queue took in is in exactly one place, and the places
-- are in the order of acceptance: session by session the batches handed over and
-- at most one command left behind, then the batch in the making, at most one
-- command set aside, and the queue.
theorem accepted_eq_sessions (config : Config) (steps : List Step) :
    let engine := (fresh config).run steps
    let sessions := Journal.sessions engine.hub.journal
    Journal.accepted engine.hub.journal =
        sessions.reverse.flatMap Session.commands ++ engine.writer.assembly ++
          engine.writer.aside.toList ++ engine.hub.pending ∧
      sessions.reverse.flatMap Session.batches = Journal.handed engine.hub.journal ∧
      sessions.length = Journal.openings engine.hub.journal ∧
      (∀ session ∈ sessions, session.leftover.length ≤ 1) ∧
      (engine.writer ≠ .ended →
        ∃ current earlier, sessions = current :: earlier ∧ current.leftover = []) := by
  intro engine sessions
  obtain ⟨⟨hcommands, hbatches, hleftover, hopenings⟩, hsession⟩ := booked_run config steps
  refine ⟨?_, hbatches, hopenings, hleftover, hsession⟩
  calc Journal.accepted engine.hub.journal
    _ = (Journal.fates engine.hub.journal).map Prod.fst ++ engine.outflow.held :=
      accepted_run config steps
    _ = sessions.reverse.flatMap Session.commands ++ engine.outflow.held :=
      congrArg (· ++ engine.outflow.held) hcommands.symm
    _ = _ := by simp only [Outflow.held, Writer.inHand, outflow_writer, outflow_pending,
      List.append_assoc]

end Engine

end QuadCan
