import QuadCan.Proofs.Engine.Finishing

namespace QuadCan

-- Steps of the loops of a closed link. A read that is under way gets this outcome.
def Step.winds (outcome : ReadOutcome) (step : Step) : Prop :=
  step.finishes = true ∨ step = .poll ∨ step = .read outcome

namespace Engine

variable {engine before after : Engine} {closer : Closer} {steps : List Step}

-- An open engine that is closed by a caller or an observer, while anything else may happen.
structure Closes (engine : Engine) (closer : Closer) : Prop where
  -- it is closed from then on
  stops (first : List Step) (hfirst : closer.letsGo ∉ first) :
    let stopping := engine.run (closer.stops :: first)
    stopping.isOpen = false ∧ stopping.hub.journal.turns = engine.hub.journal.turns
  -- the link is let go once
  releases (first second : List Step) (hfirst : closer.letsGo ∉ first)
      (hsecond : closer.returns ∉ second) :
    let released := engine.run (closer.stops :: first ++ closer.letsGo :: second)
    released.isOpen = false ∧
      released.hub.journal.turns = engine.hub.journal.turns ++ [.disconnected]
  -- and the close returns when the loops have ended
  returns (first second : List Step) (hfirst : closer.letsGo ∉ first)
      (hsecond : closer.returns ∉ second) :
    let released := engine.run (closer.stops :: first ++ closer.letsGo :: second)
    (released.Finished closer →
        released.step closer.returns = { released with phase := .closed }) ∧
      (¬ released.Finished closer → released.step closer.returns = released)
  -- as they do, whatever they are at
  ends (outcome : ReadOutcome) :
    ∃ later, (∀ step ∈ later, step.winds outcome) ∧ closer.returns ∉ later ∧
      (engine.run (closer.stops :: closer.letsGo :: later)).Finished closer

private theorem rejoin_not_mem {outcome : ReadOutcome}
    (hsteps : ∀ step ∈ steps, step.winds outcome) : Step.rejoin ∉ steps := by
  intro hmem
  rcases hsteps _ hmem with h | h | h
  all_goals cases h

private theorem phase_of_winds {outcome : ReadOutcome} (hphase : engine.phase = .released .caller)
    (hsteps : ∀ step ∈ steps, step.winds outcome) :
    (engine.run steps).phase = .released .caller := by
  have hawaits : Closer.caller.Awaits engine.phase .rejoin := hphase.symm ▸ .released
  exact (still_run hawaits trivial (rejoin_not_mem hsteps)).phase.trans hphase

private theorem poll_of_idle (hphase : engine.phase ≠ .running)
    (hreader : engine.reader = .idle) : (engine.step .poll).reader = .ended := by
  simp only [Engine.step, poll, hreader, if_neg hphase]

private theorem quiet_of_read {outcome : ReadOutcome} (h : before.Does (.read outcome) after)
    (hreader : before.reader = .waiting) : after.reader ≠ .waiting := by
  cases h with
  | stuck hstuck => exact absurd hreader hstuck
  | line => exact proceed_ne_waiting before _
  | _ => exact nofun

private theorem exists_ended_of_quiet (hphase : engine.phase = .released .caller)
    (hquiet : engine.reader ≠ .waiting) (outcome : ReadOutcome) :
    ∃ later, (∀ step ∈ later, step.winds outcome) ∧ (engine.run later).reader = .ended := by
  have hpoll : ∀ step ∈ [Step.poll], step.winds outcome :=
    List.forall_mem_singleton.mpr (Or.inr (Or.inl rfl))
  cases hreader : engine.reader with
  | waiting => exact absurd hreader hquiet
  | ended => exact ⟨[], fun _ hm => absurd hm List.not_mem_nil, hreader⟩
  | idle => exact ⟨[.poll], hpoll, poll_of_idle (ne_running_of_released hphase) hreader⟩
  | delivering delivery =>
    obtain ⟨later, hlater, hidle⟩ := exists_idle engine delivery hreader
    have hwinds : ∀ step ∈ later, step.winds outcome := fun step hm => Or.inl (hlater step hm)
    refine ⟨later ++ [.poll], List.forall_mem_append.mpr ⟨hwinds, hpoll⟩, ?_⟩
    rw [run_append]
    exact poll_of_idle (ne_running_of_released (phase_of_winds hphase hwinds)) hidle

-- The read loop of a closed link ends, and a line that it still gets is delivered before.
theorem exists_ended (hphase : engine.phase = .released .caller) (outcome : ReadOutcome) :
    ∃ later, (∀ step ∈ later, step.winds outcome) ∧ (engine.run later).reader = .ended := by
  by_cases hreader : engine.reader = .waiting
  · have hread : ∀ step ∈ [Step.read outcome], step.winds outcome :=
      List.forall_mem_singleton.mpr (Or.inr (Or.inr rfl))
    have hquiet := quiet_of_read (does_step engine (.read outcome)) hreader
    obtain ⟨later, hlater, hended⟩ :=
      exists_ended_of_quiet (phase_of_winds hphase hread) hquiet outcome
    exact ⟨.read outcome :: later, List.forall_mem_append.mpr ⟨hread, hlater⟩, hended⟩
  · exact exists_ended_of_quiet hphase hreader outcome

-- The loops end that a close waits for.
theorem exists_finished (hphase : engine.phase = .released closer) (outcome : ReadOutcome) :
    ∃ later, (∀ step ∈ later, step.winds outcome) ∧ closer.returns ∉ later ∧
      (engine.run later).Finished closer := by
  have hsettling : ∀ step ∈ settling, step.winds outcome :=
    fun step hm => Or.inl (finishes_settling step hm)
  cases closer with
  | observer =>
    have hended := (run_settling (ne_running_of_released hphase)).1
    exact ⟨settling, hsettling, by simp [settling, Closer.returns], hended⟩
  | caller =>
    obtain ⟨later, hlater, hended⟩ := exists_ended hphase outcome
    have hreleased := phase_of_winds hphase hlater
    obtain ⟨hwriter, -, hreader⟩ := run_settling (ne_running_of_released hreleased)
    have hwinds := List.forall_mem_append.mpr ⟨hlater, hsettling⟩
    refine ⟨later ++ settling, hwinds, rejoin_not_mem hwinds, ?_⟩
    rw [run_append]
    exact ⟨hwriter, hreader.trans hended⟩

theorem closes_of_running (hphase : engine.phase = .running) (hasks : engine.Asks closer) :
    engine.Closes closer := by
  constructor
  case stops =>
    intro first hfirst
    obtain ⟨hstopping, -, hturns⟩ := still_stops hphase hasks hfirst
    exact ⟨by simp [isOpen, hstopping], hturns⟩
  case releases =>
    intro first second hfirst hsecond
    obtain ⟨hlast, -, hturns⟩ := still_released hphase hasks hfirst hsecond
    exact ⟨decide_eq_false (ne_running_of_released hlast), hturns⟩
  case returns =>
    intro first second hfirst hsecond
    obtain ⟨hlast, hattended, -⟩ := still_released hphase hasks hfirst hsecond
    exact step_returns hlast hattended
  case ends =>
    intro outcome
    obtain ⟨hlast, -, -⟩ :=
      still_released hphase hasks List.not_mem_nil List.not_mem_nil
    exact exists_finished hlast outcome

-- A close by a caller, with what happens before the link is let go and before the close returns.
def closing (first second : List Step) : List Step :=
  .shut :: first ++ .release :: second ++ [.rejoin]

-- An engine that is dropped closes, and so does its transport after it.
def dropping (first second : List Step) : List Step :=
  closing first second ++ closing [] []

theorem run_dropping {first second : List Step}
    (hclosed : (engine.run (closing first second)).phase = .closed) :
    engine.run (dropping first second) = engine.run (closing first second) := by
  rw [dropping, run_append]
  generalize engine.run (closing first second) = closed at *
  have hshut := step_of_closed hclosed .shut (by simp)
  have hrelease := step_of_closed hclosed .release (by simp)
  have hrejoin := step_of_closed hclosed .rejoin (by simp)
  simp only [closing, run, List.nil_append, List.cons_append, List.foldl_cons, List.foldl_nil,
    hshut, hrelease, hrejoin]

theorem exists_dropped (hphase : engine.phase = .running) (outcome : ReadOutcome) :
    ∃ later, (∀ step ∈ later, step.winds outcome) ∧
      (engine.run (dropping [] later)).phase = .closed := by
  have hcloses : engine.Closes .caller := closes_of_running hphase trivial
  obtain ⟨later, hlater, hreturns, hfinished⟩ := hcloses.ends outcome
  have hstep := (hcloses.returns [] later List.not_mem_nil hreturns).1 hfinished
  have hclosed : (engine.run (closing [] later)).phase = .closed := by
    rw [closing, run_append]
    exact congrArg phase hstep
  exact ⟨later, hlater, (run_dropping hclosed).symm ▸ hclosed⟩

-- The link is opened and let go in turns, so that it is opened once more often than let go just
-- while the engine is open, except for the time that a close takes to let it go.
structure Balanced (engine : Engine) : Prop where
  turns : engine.hub.journal.turns = rounds engine.hub.journal.closings ++
    if engine.phase.isLinked then [.connected] else []
  openings : (∀ closer, engine.phase ≠ .stopping closer) →
    engine.hub.journal.openings =
      engine.hub.journal.closings + if engine.isOpen then 1 else 0
  opened : engine.phase = .running → ∀ refusal, engine.connect refusal = (.ok (), engine)
  -- an open engine stays open until a caller or an observer closes it, also without a read loop
  stays : engine.phase = .running → ∀ step,
    (∀ closer, engine.Asks closer → step ≠ closer.stops) → (engine.step step).isOpen = true
  closes : engine.phase = .running → ∀ closer, engine.Asks closer → engine.Closes closer
  closed : engine.phase = .closed → engine.AtRest
  -- a drop of it comes to its end, and then every link that it opened has been let go once
  drops : engine.phase = .running → ∀ outcome,
    ∃ later, (∀ step ∈ later, step.winds outcome) ∧
      (engine.run (dropping [] later)).phase = .closed
  dropped : ∀ first second, (engine.run (closing first second)).phase = .closed →
    let after := engine.run (dropping first second)
    after = engine.run (closing first second) ∧
      after.hub.journal.openings = after.hub.journal.closings

theorem stays_of_running (hphase : engine.phase = .running) (step : Step)
    (hstep : ∀ closer, engine.Asks closer → step ≠ closer.stops) :
    (engine.step step).isOpen = true := by
  rcases (does_step engine step).asks hphase with hrunning | ⟨closer, hasks, hstops⟩
  · exact decide_eq_true hrunning
  · exact absurd hstops (hstep closer hasks)

theorem balanced_run (config : Config) (steps : List Step) :
    ((fresh config).run steps).Balanced where
  turns := (paired_run config steps).turns_eq
  openings := (paired_run config steps).openings_eq
  opened := connect_of_running
  stays := stays_of_running
  closes hphase _ := closes_of_running hphase
  closed hclosed := (dormant_of_closed config steps hclosed).atRest
  drops := exists_dropped
  dropped first second hclosed := by
    refine ⟨run_dropping hclosed, ?_⟩
    have hopenings := (paired_run config (steps ++ closing first second)).openings_eq
    rw [run_append, isOpen, hclosed] at hopenings
    rw [run_dropping hclosed]
    exact hopenings fun closer => Phase.noConfusion

end Engine

end QuadCan
