import QuadCan.Proofs.Batch.Packing
import QuadCan.Proofs.Engine.Conservation

namespace QuadCan

-- The batches that a write loop still hands over if no window closes early, nothing comes into
-- the queue and nobody closes the link.
def Writer.forthcoming (limit : Nat) (pending : List Command) : Writer → List (List Command)
  | .gathering batch =>
      let result := Batch.gather limit (Batch.size batch) pending
      (batch ++ result.batch) :: Batch.packs limit result.carry result.queue
  | writer => Batch.packs limit writer.aside pending

namespace Engine

-- The batches that were handed over and those that are still to come.
def batches (engine : Engine) : List (List Command) :=
  engine.hub.journal.handed ++
    engine.writer.forthcoming engine.config.batchLimit engine.hub.pending

-- The write loop at work, with a window that does not expire: a batch is complete when it is
-- full or the queue is empty. The link may refuse a batch, and nothing else goes wrong.
def Unhurried (engine : Engine) : Step → Prop
  | .resume | .receive | .wake | .confirm | .gather => True
  | .ship =>
      engine.hub.pending = [] ∨ engine.config.batchLimit ≤ Batch.size engine.writer.assembly
  | .write outcome => outcome ≠ .crashed
  | _ => False

def UnhurriedRun (engine : Engine) : List Step → Prop
  | [] => True
  | step :: steps => engine.Unhurried step ∧ (engine.step step).UnhurriedRun steps

-- A step of the write loop that leaves the batches as they are, those to come included.
structure Keeps (before after : Engine) : Prop where
  config : after.config = before.config
  phase : after.phase = before.phase
  batches : after.batches = before.batches

variable {engine before after : Engine} {step : Step}

theorem Keeps.refl (engine : Engine) : engine.Keeps engine :=
  ⟨rfl, rfl, rfl⟩

theorem Keeps.trans {first second third : Engine} (h : first.Keeps second)
    (h' : second.Keeps third) : first.Keeps third :=
  ⟨h'.config.trans h.config, h'.phase.trans h.phase, h'.batches.trans h.batches⟩

private theorem batches_of_writer {writer : Writer} (h : engine.writer = writer) :
    engine.batches = engine.hub.journal.handed ++
      writer.forthcoming engine.config.batchLimit engine.hub.pending := by
  rw [batches, h]

private theorem batches_hand (engine : Engine) (batch : List Command) (carry : Option Command) :
    (engine.hand batch carry).batches =
      engine.hub.journal.handed ++
        batch :: Batch.packs engine.config.batchLimit carry engine.hub.pending := by
  have hhanded : (engine.hand batch carry).hub.journal.handed =
      engine.hub.journal.handed ++ [batch] := Journal.handed_cons (.handed batch) _
  rw [batches, hhanded, List.append_assoc]
  rfl

private theorem gather_of_complete {batch : List Command}
    (hwriter : engine.writer = .gathering batch) (h : engine.Unhurried .ship) :
    Batch.gather engine.config.batchLimit (Batch.size batch) engine.hub.pending =
      ⟨[], none, engine.hub.pending⟩ := by
  rw [Unhurried, hwriter] at h
  rcases h with hempty | hfull
  · rw [hempty]
    rfl
  · exact Batch.gather_of_full hfull

theorem Does.keeps (h : before.Does step after) (hphase : before.phase = .running)
    (hstep : before.Unhurried step) : before.Keeps after := by
  cases h with
  | stuck => exact .refl before
  | wait _ hwriter | retake _ hwriter | wake hwriter =>
    exact ⟨rfl, rfl, (batches_of_writer hwriter).symm⟩
  | leave hclosed | discard hclosed => exact absurd hphase hclosed
  | @receive command rest hwriter hpending =>
    refine ⟨rfl, rfl, ?_⟩
    rw [batches_of_writer hwriter, hpending]
    have hpacks := Batch.packs_carry before.config.batchLimit (some command) rest
    exact congrArg (before.hub.journal.handed ++ ·) hpacks.symm
  | confirm _ hwriter =>
    refine ⟨rfl, rfl, ?_⟩
    rw [batches_of_writer hwriter, Writer.forthcoming, Writer.aside, Batch.packs_of_cons rfl]
    · rfl
    · intro batch hbatch
      cases hbatch
  | join hwriter hpending hfit =>
    refine ⟨rfl, rfl, ?_⟩
    rw [batches_of_writer hwriter, hpending]
    simp only [batches, Writer.forthcoming, Batch.gather, hfit, Batch.size_concat,
      List.append_assoc, List.singleton_append]
  | overflow hwriter hpending hfit =>
    refine ⟨rfl, rfl, ?_⟩
    rw [batches_of_writer hwriter, hpending, batches_hand]
    simp only [Writer.forthcoming, Batch.gather, hfit, List.append_nil]
  | ship hwriter =>
    refine ⟨rfl, rfl, ?_⟩
    rw [batches_of_writer hwriter, batches_hand, Writer.forthcoming,
      gather_of_complete hwriter hstep, List.append_nil]
  | written hwriter | lost hwriter =>
    refine ⟨rfl, rfl, ?_⟩
    rw [batches_of_writer hwriter]
    exact congrArg (· ++ _) (Journal.handed_cons_of_nil _ rfl)
  | crashed => exact absurd rfl hstep
  | _ => exact False.elim hstep

theorem keeps_step {step : Step} (hphase : engine.phase = .running)
    (hstep : engine.Unhurried step) : engine.Keeps (engine.step step) :=
  (does_step engine step).keeps hphase hstep

theorem keeps_run {steps : List Step} (hphase : engine.phase = .running)
    (hsteps : engine.UnhurriedRun steps) : engine.Keeps (engine.run steps) := by
  induction steps generalizing engine with
  | nil => exact .refl engine
  | cons step steps ih =>
    have hkeeps := keeps_step hphase hsteps.1
    exact hkeeps.trans (ih (hkeeps.phase.trans hphase) hsteps.2)

end Engine

-- A bound for the steps that a write loop takes with what it has in hand.
def Writer.remaining : Writer → Nat
  | .ended => 0
  | .waiting => 1
  | .idle carry => 5 * carry.toList.length + 2
  | .writing _ carry => 5 * carry.toList.length + 3
  | .gathering _ => 4
  | .holding _ => 5

namespace Engine

variable {engine : Engine}

def remaining (engine : Engine) : Nat :=
  5 * engine.hub.pending.length + engine.writer.remaining

-- Nothing is left to do for the write loop.
structure Drained (engine : Engine) : Prop where
  writer : engine.writer = .waiting
  pending : engine.hub.pending = []

private theorem gather_shorter {batch pending : List Command} {command : Command}
    (hwriter : engine.writer = .gathering batch)
    (hpending : engine.hub.pending = command :: pending)
    (hroom : Batch.size batch < engine.config.batchLimit) :
    engine.gather.writer ≠ .ended ∧ engine.gather.remaining < engine.remaining := by
  have hremaining : engine.remaining = 5 * (pending.length + 1) + 4 := by
    rw [remaining, hwriter, hpending]
    rfl
  rw [hremaining]
  have hdoes : engine.Does .gather engine.gather := does_step engine .gather
  generalize engine.gather = after at *
  cases hdoes with
  | stuck hstuck =>
    have hfull := Batch.fit_eq_full_iff.mp (hstuck batch command pending hwriter hpending)
    exact absurd hfull (Nat.not_le_of_lt hroom)
  | join _ hother =>
    cases hpending.symm.trans hother
    refine ⟨nofun, ?_⟩
    show 5 * pending.length + 4 < _
    omega
  | overflow _ hother =>
    cases hpending.symm.trans hother
    refine ⟨nofun, ?_⟩
    show 5 * pending.length + (5 * 1 + 3) < _
    omega

-- A write loop that has something to do can do it, whatever it has in hand.
theorem exists_step (hphase : engine.phase = .running) (hwriter : engine.writer ≠ .ended) :
    engine.Drained ∨ ∃ step, engine.Unhurried step ∧ (engine.step step).writer ≠ .ended ∧
      (engine.step step).remaining < engine.remaining := by
  obtain ⟨config, ⟨pending, accepting, observers, mailboxes, counters, journal⟩, phase,
    writer, reader⟩ := engine
  obtain rfl : phase = .running := hphase
  cases writer with
  | ended => exact absurd rfl hwriter
  | idle carry =>
    cases carry with
    | none =>
      refine Or.inr ⟨.resume, trivial, nofun, ?_⟩
      exact Nat.add_lt_add_left (Nat.lt_succ_self _) _
    | some command =>
      have hranks : Writer.remaining (.holding command) < Writer.remaining (.idle (some command)) :=
        Nat.lt_add_of_pos_right (Nat.succ_pos 1)
      exact Or.inr ⟨.resume, trivial, nofun, Nat.add_lt_add_left hranks _⟩
  | waiting =>
    cases pending with
    | nil => exact Or.inl ⟨rfl, rfl⟩
    | cons command pending =>
      refine Or.inr ⟨.receive, trivial, nofun, ?_⟩
      show 5 * pending.length + 5 < 5 * (pending.length + 1) + 1
      omega
  | holding command =>
    refine Or.inr ⟨.confirm, trivial, nofun, ?_⟩
    exact Nat.add_lt_add_left (Nat.lt_succ_self _) _
  | gathering batch =>
    by_cases hcomplete : pending = [] ∨ config.batchLimit ≤ Batch.size batch
    · refine Or.inr ⟨.ship, hcomplete, nofun, ?_⟩
      exact Nat.add_lt_add_left (Nat.lt_succ_self _) _
    · obtain ⟨hpending, hroom⟩ := not_or.mp hcomplete
      obtain ⟨command, rest, rfl⟩ := List.exists_cons_of_ne_nil hpending
      exact Or.inr ⟨.gather, trivial, gather_shorter rfl rfl (Nat.lt_of_not_le hroom)⟩
  | writing batch carry =>
    refine Or.inr ⟨.write .written, nofun, nofun, ?_⟩
    exact Nat.add_lt_add_left (Nat.lt_succ_self _) _

theorem exists_drained (engine : Engine) (hphase : engine.phase = .running)
    (hwriter : engine.writer ≠ .ended) :
    ∃ steps, engine.UnhurriedRun steps ∧ (engine.run steps).Drained := by
  rcases exists_step hphase hwriter with hdrained | ⟨step, hstep, hnext, hshorter⟩
  · exact ⟨[], trivial, hdrained⟩
  · have hrunning := (keeps_step hphase hstep).phase.trans hphase
    obtain ⟨steps, hsteps, hdrained⟩ := exists_drained (engine.step step) hrunning hnext
    exact ⟨step :: steps, ⟨hstep, hsteps⟩, hdrained⟩
termination_by engine.remaining

theorem Drained.forthcoming_eq (h : engine.Drained) (limit : Nat) :
    engine.writer.forthcoming limit engine.hub.pending = [] := by
  rw [h.writer, h.pending]
  exact Batch.packs_nil limit

-- How an unhurried write loop deals with a queue.
structure HandsOver (engine : Engine) (batches : List (List Command)) : Prop where
  -- these batches are handed over and no other, in this order
  order (steps : List Step) (hsteps : engine.UnhurriedRun steps) :
    (engine.run steps).hub.journal.handed <+: engine.hub.journal.handed ++ batches
  -- all of them when nothing is left to do
  whole (steps : List Step) (hsteps : engine.UnhurriedRun steps)
      (hdrained : (engine.run steps).Drained) :
    (engine.run steps).hub.journal.handed = engine.hub.journal.handed ++ batches
  ends : ∃ steps, engine.UnhurriedRun steps ∧ (engine.run steps).Drained

theorem handsOver_packs {carry : Option Command} (hphase : engine.phase = .running)
    (hwriter : engine.writer = .idle carry) :
    engine.HandsOver (Batch.packs engine.config.batchLimit carry engine.hub.pending) := by
  have hhanded (steps : List Step) (hsteps : engine.UnhurriedRun steps) :
      (engine.run steps).hub.journal.handed ++ (engine.run steps).writer.forthcoming
          engine.config.batchLimit (engine.run steps).hub.pending =
        engine.hub.journal.handed ++
          Batch.packs engine.config.batchLimit carry engine.hub.pending := by
    obtain ⟨hconfig, -, hbatches⟩ := keeps_run hphase hsteps
    rw [batches, batches, hconfig, hwriter] at hbatches
    exact hbatches
  constructor
  case order => exact fun steps hsteps => ⟨_, hhanded steps hsteps⟩
  case whole =>
    intro steps hsteps hdrained
    have hwhole := hhanded steps hsteps
    rw [hdrained.forthcoming_eq, List.append_nil] at hwhole
    exact hwhole
  case ends => exact exists_drained engine hphase (by rw [hwriter]; exact nofun)

-- The batches that are taken one after the other, each from the command held back or else from
-- the queue, are the greedy ones, and it makes no difference where a command stood. They are
-- what a write loop hands over whose window does not expire.
theorem packs_greedily (limit : Nat) (carry : Option Command) (queue : List Command) :
    let batches := Batch.packs limit carry queue
    (∀ others, Batch.Greedy limit (carry.toList ++ queue) others ↔ others = batches) ∧
      batches.flatMap Batch.wire = Batch.wire (carry.toList ++ queue) ∧
      (batches.IsChain fun batch other =>
        limit < (Batch.wire batch).length + (Batch.wire other).length) ∧
      Batch.packs limit none (carry.toList ++ queue) = batches ∧
      ∀ engine : Engine, engine.phase = .running → engine.writer = .idle carry →
        engine.hub.pending = queue → engine.config.batchLimit = limit →
          engine.HandsOver batches := by
  intro batches
  have hgreedy : Batch.Greedy limit (carry.toList ++ queue) batches :=
    Batch.greedy_packs limit carry queue
  refine ⟨fun others => ⟨fun h => h.unique hgreedy, fun h => h ▸ hgreedy⟩, ?_,
    hgreedy.isChain, Batch.packs_carry limit carry queue, ?_⟩
  · rw [← Batch.wire_flatten, hgreedy.flatten_eq]
  · rintro engine hphase hwriter rfl rfl
    exact handsOver_packs hphase hwriter

-- A batch that just reaches the limit, a command that goes past it, and one held back.
theorem packs_greedily_mixed :
    let queue : List Command := [[], [65], [], [66, 67, 68, 69], [70], [71, 72]]
    let batches : List (List Command) := [[[], [65], []], [[66, 67, 68, 69]], [[70]], [[71, 72]]]
    let engine : Engine :=
      { config := { batchLimit := 4 }, hub := { pending := queue }, phase := .running,
        writer := .idle none }
    Batch.packs 4 none queue = batches ∧ engine.HandsOver batches := by
  intro queue batches engine
  have hpacks : Batch.packs 4 none queue = batches := by decide +kernel
  have hhands := (packs_greedily 4 none queue).2.2.2.2 engine rfl rfl rfl rfl
  rw [hpacks] at hhands
  exact ⟨hpacks, hhands⟩

end Engine

end QuadCan
