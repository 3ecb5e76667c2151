import QuadCan.Proofs.Batch.Gather
import QuadCan.Proofs.Engine.Conservation
import QuadCan.Proofs.Engine.Writes

namespace QuadCan

namespace Batch

-- Only a batch of a single command goes past the limit.
structure Bounded (limit : Nat) (batch : List Command) : Prop where
  nonempty : batch ≠ []
  size : size batch ≤ limit ∨ batch.length = 1

theorem bounded_singleton (limit : Nat) (command : Command) : Bounded limit [command] :=
  ⟨List.cons_ne_nil _ _, Or.inr rfl⟩

end Batch

-- The batch in the making or on its way is bounded, and the command that is held back
-- did not fit into it.
def Writer.Bounded (limit : Nat) : Writer → Prop
  | .gathering batch => Batch.Bounded limit batch
  | .writing batch carry =>
      Batch.Bounded limit batch ∧ ∀ command, carry = some command →
        limit < Batch.size batch + command.length + 1
  | _ => True

theorem Journal.mem_handed {journal : Journal} {batch : List Command}
    (h : .handed batch ∈ journal) : batch ∈ journal.handed :=
  List.mem_filterMap.mpr ⟨_, List.mem_reverse.mpr h, rfl⟩

namespace Outflow

variable {before after : Outflow}

structure Bounded (outflow : Outflow) : Prop where
  writer : outflow.writer.Bounded outflow.limit
  handed : ∀ batch ∈ outflow.journal.handed, Batch.Bounded outflow.limit batch

-- Where nothing is handed over, only the write loop is to be looked at.
private theorem Bounded.of_writer (h : Bounded before) (hlimit : after.limit = before.limit)
    (hhanded : after.journal.handed = before.journal.handed)
    (hwriter : after.writer.Bounded after.limit) : Bounded after := by
  refine ⟨hwriter, ?_⟩
  rw [hhanded, hlimit]
  exact h.handed

private theorem Bounded.hand {batch : List Command} {carry : Option Command} (h : Bounded before)
    (hwriter : before.writer = .gathering batch)
    (hcarry : ∀ command, carry = some command →
      before.limit < Batch.size batch + command.length + 1)
    (hlimit : after.limit = before.limit) (hafter : after.writer = .writing batch carry)
    (hjournal : after.journal = .handed batch :: before.journal) : Bounded after := by
  have hbatch := h.writer
  rw [hwriter] at hbatch
  constructor
  · rw [hafter, hlimit]
    exact ⟨hbatch, hcarry⟩
  · intro other hother
    rw [hjournal, Journal.handed_cons, List.mem_append] at hother
    rw [hlimit]
    rcases hother with hother | hother
    · exact h.handed other hother
    · rw [List.mem_singleton.mp hother]
      exact hbatch

theorem Move.bounded (hmove : Move before after) (h : Bounded before) : Bounded after := by
  cases hmove with
  | @note event hevent =>
    cases event with
    | handed => cases hevent
    | _ => exact h.of_writer rfl (Journal.handed_cons_of_nil _ rfl) h.writer
  | turn => exact h.of_writer rfl rfl h.writer
  | begin => exact h.of_writer rfl (Journal.handed_cons_of_nil _ rfl) trivial
  | wait => exact h.of_writer rfl rfl trivial
  | retake => exact h.of_writer rfl rfl trivial
  | receive => exact h.of_writer rfl rfl trivial
  | confirm => exact h.of_writer rfl rfl (Batch.bounded_singleton _ _)
  | @join batch command rest hwriter _ hfit =>
    have hnonempty : batch ++ [command] ≠ [] := by simp
    have hroom : Batch.size (batch ++ [command]) ≤ before.limit := by
      rw [Batch.size_concat]
      exact Batch.fit_eq_joins_iff.mp hfit
    exact h.of_writer rfl rfl ⟨hnonempty, Or.inl hroom⟩
  | @overflow batch command rest hwriter _ hfit =>
    refine h.hand hwriter ?_ rfl rfl rfl
    intro other hother
    cases hother
    exact (Batch.fit_eq_overflows_iff.mp hfit).2
  | ship hwriter =>
    refine h.hand hwriter ?_ rfl rfl rfl
    exact nofun
  | settle _ hevent =>
    cases hevent with
    | _ => exact h.of_writer rfl (Journal.handed_cons_of_nil _ rfl) trivial
  | stop => exact h.of_writer rfl rfl trivial
  | abandon => exact h.of_writer rfl (Journal.handed_cons_of_nil _ rfl) trivial

theorem invariant_bounded : Invariant Bounded where
  move := Move.bounded
  accept _ h := h.of_writer rfl (Journal.handed_cons_of_nil _ rfl) h.writer
  retire h := h.of_writer rfl rfl h.writer

theorem Move.limit (hmove : Move before after) : after.limit = before.limit := by
  cases hmove with
  | _ => rfl

theorem invariant_limit (limit : Nat) : Invariant fun outflow => outflow.limit = limit where
  move hmove h := hmove.limit.trans h
  accept _ h := h
  retire h := h

end Outflow

namespace Engine

theorem bounded_run (config : Config) (steps : List Step) :
    ((fresh config).run steps).outflow.Bounded := by
  have hfresh : (fresh config).outflow.Bounded :=
    ⟨trivial, fun _ h => absurd h List.not_mem_nil⟩
  exact invariant_run Outflow.invariant_bounded hfresh steps

theorem limit_run (config : Config) (steps : List Step) :
    ((fresh config).run steps).outflow.limit = config.batchLimit := by
  have hfresh : (fresh config).outflow.limit = config.batchLimit := rfl
  exact invariant_run (Outflow.invariant_limit _) hfresh steps

-- A batch goes on where the commands before it have left off.
theorem append_handed_prefix_accepted (config : Config) (steps : List Step)
    {later earlier : Journal} {batch : List Command}
    (hjournal : ((fresh config).run steps).hub.journal = later ++ .handed batch :: earlier) :
    earlier.fates.map Prod.fst ++ batch <+: ((fresh config).run steps).hub.journal.accepted := by
  rw [accepted_run, hjournal, Journal.fates_append, Journal.fates_cons]
  simp only [List.map_append, Journal.map_fates_handed, List.append_assoc]
  rw [← List.append_assoc]
  exact List.prefix_append _ _

-- Every batch is a run of commands in the order of acceptance that keeps to the limit or
-- is a single command. One that is held back would have gone past the limit.
theorem handed_bounded (config : Config) (steps : List Step) :
    let engine := (fresh config).run steps
    (∀ later batch earlier, engine.hub.journal = later ++ .handed batch :: earlier →
      batch ≠ [] ∧
        (Journal.fates earlier).map Prod.fst ++ batch <+: engine.hub.journal.accepted ∧
        ((Batch.wire batch).length ≤ config.batchLimit ∨ batch.length = 1)) ∧
      ∀ batch carry, engine.writer = .writing batch carry →
        engine.hub.journal.handed.getLast? = some batch ∧
          ∀ command, carry = some command →
            config.batchLimit < (Batch.wire batch).length + command.length + 1 := by
  intro engine
  have hbounded := bounded_run config steps
  have horderly := orderly_run config steps
  have hprefix := @append_handed_prefix_accepted config steps
  rw [Outflow.Orderly, outflow_journal, outflow_writer] at horderly
  obtain ⟨hwriter, hhanded⟩ := hbounded
  rw [limit_run, outflow_writer] at hwriter
  rw [limit_run, outflow_journal] at hhanded
  constructor
  · intro later batch earlier hjournal
    have hevent : .handed batch ∈ engine.hub.journal := by
      rw [hjournal]
      exact List.mem_append_right _ List.mem_cons_self
    obtain ⟨hnonempty, hsize⟩ := hhanded batch (Journal.mem_handed hevent)
    rw [Batch.length_wire]
    exact ⟨hnonempty, hprefix hjournal, hsize⟩
  · intro batch carry hwriting
    rw [hwriting] at hwriter horderly
    rw [Batch.length_wire]
    refine ⟨?_, hwriter.2⟩
    rw [horderly, Writer.underway, List.getLast?_concat]

end Engine

end QuadCan
