import QuadCan.Proofs.Engine.Refinement

namespace QuadCan

namespace Journal

-- The batches whose write has ended, one way or another.
def settled : Journal → List (List Command) :=
  select fun
    | .written batch => some batch
    | .lost batch => some batch
    | .crashed batch => some batch
    | _ => none

theorem settled_cons (event : Event) (journal : Journal) :
    settled (event :: journal) = journal.settled ++ settled [event] :=
  select_append _ [event] journal

theorem written_cons (event : Event) (journal : Journal) :
    written (event :: journal) = journal.written ++ written [event] :=
  select_append _ [event] journal

end Journal

-- The batch that is being written.
def Writer.underway : Writer → List (List Command)
  | .writing batch _ => [batch]
  | _ => []

namespace Outflow

variable {before after : Outflow}

-- The batches that were handed over have been dealt with, in order, except for
-- the one that is being written.
def Orderly (outflow : Outflow) : Prop :=
  outflow.journal.handed = outflow.journal.settled ++ outflow.writer.underway

private theorem orderly_of_log {event : Event} (h : Orderly before)
    (hjournal : after.journal = event :: before.journal)
    (hunderway : after.writer.underway = before.writer.underway)
    (hhanded : Journal.handed [event] = []) (hsettled : Journal.settled [event] = []) :
    Orderly after := by
  rw [Orderly, hjournal, hunderway, Journal.handed_cons, Journal.settled_cons, hhanded, hsettled,
    List.append_nil, List.append_nil]
  exact h

private theorem orderly_of_writer (h : Orderly before) (hjournal : after.journal = before.journal)
    (hunderway : after.writer.underway = before.writer.underway) : Orderly after := by
  rw [Orderly, hjournal, hunderway]
  exact h

private theorem orderly_of_handed {batch : List Command} (h : Orderly before)
    (hjournal : after.journal = .handed batch :: before.journal)
    (hbefore : before.writer.underway = []) (hafter : after.writer.underway = [batch]) :
    Orderly after := by
  rw [Orderly, hbefore, List.append_nil] at h
  have hsettled : Journal.settled [.handed batch] = [] := rfl
  rw [Orderly, hjournal, hafter, Journal.handed_cons, Journal.settled_cons, h, hsettled,
    List.append_nil]
  rfl

theorem Move.orderly (hmove : Move before after) (h : Orderly before) : Orderly after := by
  cases hmove with
  | @note event hevent =>
    cases event with
    | accepted | handed | written | lost | crashed | abandoned | connected => cases hevent
    | _ => exact orderly_of_log h rfl rfl rfl rfl
  | turn => exact h
  | begin hwriter => exact orderly_of_log h rfl (by rw [hwriter]; rfl) rfl rfl
  | wait _ hwriter => exact orderly_of_writer h rfl (by rw [hwriter]; rfl)
  | retake _ hwriter => exact orderly_of_writer h rfl (by rw [hwriter]; rfl)
  | receive hwriter => exact orderly_of_writer h rfl (by rw [hwriter]; rfl)
  | confirm _ hwriter => exact orderly_of_writer h rfl (by rw [hwriter]; rfl)
  | join hwriter => exact orderly_of_writer h rfl (by rw [hwriter]; rfl)
  | overflow hwriter => exact orderly_of_handed h rfl (by rw [hwriter]; rfl) rfl
  | ship hwriter => exact orderly_of_handed h rfl (by rw [hwriter]; rfl) rfl
  | @settle batch carry event hwriter hevent =>
    have hsettled : Journal.handed [event] = [] ∧ Journal.settled [event] = [batch] := by
      cases hevent with
      | _ => exact ⟨rfl, rfl⟩
    rw [Orderly, hwriter] at h
    rw [Orderly, log, Journal.handed_cons, Journal.settled_cons, hsettled.1, hsettled.2,
      List.append_nil]
    exact h.trans (List.append_nil _).symm
  | stop hwriter =>
    rcases hwriter with hwriter | hwriter
    · exact orderly_of_writer h rfl (by rw [hwriter]; rfl)
    · exact orderly_of_writer h rfl (by rw [hwriter]; rfl)
  | abandon hwriter =>
    rcases hwriter with hwriter | hwriter
    · exact orderly_of_log h rfl (by rw [hwriter]; rfl) rfl rfl
    · exact orderly_of_log h rfl (by rw [hwriter]; rfl) rfl rfl

theorem invariant_orderly : Invariant Orderly where
  move := Move.orderly
  accept _ h := orderly_of_log h rfl rfl rfl rfl
  retire h := h

end Outflow

theorem Engine.orderly_run (config : Config) (steps : List Step) :
    ((fresh config).run steps).outflow.Orderly := by
  have hfresh : (fresh config).outflow.Orderly := rfl
  exact invariant_run Outflow.invariant_orderly hfresh steps

end QuadCan
