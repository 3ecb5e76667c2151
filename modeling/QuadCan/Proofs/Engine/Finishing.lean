import QuadCan.Proofs.Engine.Closing
import QuadCan.Proofs.Engine.Reading

namespace QuadCan

-- Steps that the loops can take without anything from outside, other than that a write ends.
def Step.finishes : Step → Bool
  | .ship | .write .written | .confirm | .wake | .resume | .observe => true
  | _ => false

theorem Step.isPlain_of_finishes {step : Step} (h : step.finishes = true) :
    step.isPlain = true := by
  cases step with
  | read | detach => cases h
  | _ => rfl

namespace Engine

variable {engine : Engine} {delivery : Delivery}

theorem along_fetched_of_finishes (engine : Engine) {steps : List Step}
    (hsteps : ∀ step ∈ steps, step.finishes = true) : engine.along fetched steps = [] := by
  induction steps generalizing engine with
  | nil => rfl
  | cons step steps ih =>
    obtain ⟨hstep, hrest⟩ := List.forall_mem_cons.mp hsteps
    have hnone : engine.fetched step = [] := by
      cases step with
      | read => cases hstep
      | _ => rfl
    rw [along, hnone, ih _ hrest]
    rfl

-- The write loop of a closed link, whatever it is doing, ends with these steps.
def settling : List Step :=
  [.ship, .write .written, .confirm, .wake, .resume]

theorem finishes_settling : ∀ step ∈ settling, step.finishes = true := by
  decide

theorem run_settling (hclosed : engine.phase ≠ .running) :
    (engine.run settling).writer = .ended ∧ (engine.run settling).phase = engine.phase ∧
      (engine.run settling).reader = engine.reader := by
  obtain ⟨config, hub, phase, writer, reader⟩ := engine
  cases writer with
  | ended => exact ⟨rfl, rfl, rfl⟩
  | waiting => simp [settling, run, Engine.step, ship, write, confirm, wake, resume, hclosed]
  | holding command =>
    simp [settling, run, Engine.step, ship, write, confirm, wake, resume, abandon, log, hclosed]
  | gathering batch =>
    simp [settling, run, Engine.step, ship, hand, write, confirm, wake, resume, abandon, log,
      count, hclosed]
  | idle carry =>
    cases carry with
    | _ =>
      simp [settling, run, Engine.step, ship, write, confirm, wake, resume, abandon, log, hclosed]
  | writing batch carry =>
    cases carry with
    | _ =>
      simp [settling, run, Engine.step, ship, write, confirm, wake, resume, abandon, log, count,
        hclosed]

-- An observer that closes the session waits for the link to be let go and the write loop to
-- end. In any other phase the delivery can go on.
def Held (engine : Engine) : Prop :=
  engine.phase = .stopping .observer ∨ engine.phase = .released .observer

private theorem exists_unheld_of_released (hreader : engine.reader = .delivering delivery)
    (hphase : engine.phase = .released .observer) :
    ∃ later, (∀ step ∈ later, Step.finishes step = true) ∧ ¬ (engine.run later).Held ∧
      (engine.run later).reader = .delivering delivery := by
  obtain ⟨hwriter, hsame, hstill⟩ := run_settling (ne_running_of_released hphase)
  have hattended : (engine.run settling).Attended .observer := ⟨delivery, hstill.trans hreader⟩
  have hrun : (engine.run settling).run [.observe] =
      { engine.run settling with phase := .closed } :=
    (step_returns (hsame.trans hphase) hattended).1 hwriter
  have hfinishes : ∀ step ∈ settling ++ [.observe], Step.finishes step = true :=
    List.forall_mem_append.mpr ⟨finishes_settling, List.forall_mem_singleton.mpr rfl⟩
  refine ⟨settling ++ [.observe], hfinishes, ?_⟩
  rw [run_append, hrun]
  refine ⟨?_, hstill.trans hreader⟩
  rintro (hheld | hheld)
  · cases hheld
  · cases hheld

theorem exists_unheld (hreader : engine.reader = .delivering delivery) :
    ∃ later, (∀ step ∈ later, Step.finishes step = true) ∧ ¬ (engine.run later).Held ∧
      (engine.run later).reader = .delivering delivery := by
  by_cases hheld : engine.Held
  · rcases hheld with hphase | hphase
    · have hstep : engine.step .observe =
          { engine with phase := .released .observer }.log .disconnected :=
        step_letsGo hphase ⟨delivery, hreader⟩
      obtain ⟨later, hlater, hrun⟩ :=
        @exists_unheld_of_released (engine.step .observe) delivery
          (by rw [hstep]; exact hreader) (by rw [hstep]; rfl)
      exact ⟨.observe :: later, List.forall_mem_cons.mpr ⟨rfl, hlater⟩, hrun⟩
    · exact exists_unheld_of_released hreader hphase
  · exact ⟨[], fun _ hm => absurd hm List.not_mem_nil, hheld, hreader⟩

-- Then it is over or comes closer to its end with one step.
theorem observe_of_unheld (hreader : engine.reader = .delivering delivery) (h : ¬ engine.Held) :
    engine.observe.reader = .idle ∨ ∃ rest, engine.observe.reader = .delivering rest ∧
      (rest.waiting.length < delivery.waiting.length ∨
        rest.waiting.length = delivery.waiting.length ∧
          rest.actions.length < delivery.actions.length) := by
  have hdoes : engine.Does .observe engine.observe := does_step engine .observe
  generalize engine.observe = after at *
  cases hdoes with
  | stuck hstuck => exact absurd (Or.inr (hstuck delivery hreader).1) h
  | letGo hphase => exact absurd (Or.inl hphase) h
  | goOn hphase => exact absurd (Or.inr hphase) h
  | close _ hother hactions | pass _ _ hother hactions =>
    cases hreader.symm.trans hother
    exact Or.inr ⟨_, rfl, Or.inr ⟨rfl, by rw [hactions]; exact Nat.lt_succ_self _⟩⟩
  | advance _ hother =>
    cases hreader.symm.trans hother
    cases hnext : (engine.hub.advance delivery).2 with
    | none => exact Or.inl (by rw [proceed, hnext])
    | some rest =>
      have hshorter := Hub.advance_shorter engine.hub delivery rest hnext
      exact Or.inr ⟨rest, by rw [proceed, hnext], hshorter⟩

-- A delivery comes to its end, also after the session has been closed in the middle of it.
theorem exists_idle (engine : Engine) (delivery : Delivery)
    (hreader : engine.reader = .delivering delivery) :
    ∃ later, (∀ step ∈ later, Step.finishes step = true) ∧
      (engine.run later).reader = .idle := by
  obtain ⟨free, hfree, hunheld, hstill⟩ := exists_unheld hreader
  have hstep (later : List Step) (hlater : ∀ step ∈ later, Step.finishes step = true) :
      ∀ step ∈ free ++ .observe :: later, Step.finishes step = true :=
    List.forall_mem_append.mpr ⟨hfree, List.forall_mem_cons.mpr ⟨rfl, hlater⟩⟩
  rcases observe_of_unheld hstill hunheld with hidle | ⟨rest, hrest, hshorter⟩
  · refine ⟨free ++ [.observe], hstep [] (fun _ hm => absurd hm List.not_mem_nil), ?_⟩
    rw [run_append]
    exact hidle
  · obtain ⟨later, hlater, hidle⟩ := exists_idle (engine.run free).observe rest hrest
    refine ⟨free ++ .observe :: later, hstep later hlater, ?_⟩
    rw [run_append]
    exact hidle
termination_by (delivery.waiting.length, delivery.actions.length)
decreasing_by
  simp only [Prod.lex_def]
  omega

-- The read loop asks the link again and again, and this is what it gets.
def attempts (outcomes : List ReadOutcome) : List Step :=
  outcomes.flatMap fun outcome => [.poll, .read outcome]

private theorem attempt_failed (hphase : engine.phase = .running) (hreader : engine.reader = .idle)
    (error : StreamError) :
    (engine.run [.poll, .read (.failed error)]).phase = .running ∧
      (engine.run [.poll, .read (.failed error)]).reader = .idle ∧
      (engine.run [.poll, .read (.failed error)]).hub.journal.received =
        engine.hub.journal.received := by
  have hpoll : engine.step .poll = { engine with reader := .waiting } := by
    simp only [Engine.step, poll, hreader, hphase, if_true]
  rw [run, List.foldl_cons, hpoll, List.foldl_cons, List.foldl_nil]
  simp only [Engine.step, read, hphase, ne_eq, not_true_eq_false, if_false]
  split
  next => exact ⟨rfl, rfl, rfl⟩
  next => exact ⟨rfl, rfl, (Journal.select_append _ [_] _).trans (List.append_nil _)⟩

theorem received_attempts (hphase : engine.phase = .running) (hreader : engine.reader = .idle)
    (errors : List StreamError) (line : Bytes) :
    (engine.run (attempts (errors.map .failed ++ [.line line]))).hub.journal.received =
      engine.hub.journal.received ++ [line] := by
  induction errors generalizing engine with
  | nil =>
    have hpoll : engine.step .poll = { engine with reader := .waiting } := by
      simp only [Engine.step, poll, hreader, hphase, if_true]
    exact congrArg (fun engine => (engine.read (.line line)).hub.journal.received) hpoll |>.trans
      (congrArg Prod.fst (Hub.inflow_receive engine.hub line))
  | cons error errors ih =>
    obtain ⟨hrunning, hidle, hsame⟩ := attempt_failed hphase hreader error
    have hrest := ih hrunning hidle
    rw [hsame, ← run_append] at hrest
    exact hrest

-- How the read loop of an engine goes on from a state, whatever comes and whoever closes.
structure Attentive (engine : Engine) : Prop where
  -- it ends with the link only
  alive : engine.Alive
  -- errors do not keep it from the next line, however many there are
  persists (hphase : engine.phase = .running) (hreader : engine.reader = .idle)
    (errors : List StreamError) (line : Bytes) :
    (engine.run (attempts (errors.map .failed ++ [.line line]))).hub.journal.received =
      engine.hub.journal.received ++ [line]
  -- each line that it gets is taken in, each error is counted that an open link gives
  gathers (later : List Step) (hlater : ∀ step ∈ later, step.isPlain = true) :
    engine.Gathers (engine.run later) (engine.along fetched later)
  -- of a closed link it gets no more than the outcome that it already waits for
  stops (later : List Step) (hlater : ∀ step ∈ later, step.isPlain = true)
    (hclosed : engine.phase ≠ .running)
    (hsession : (engine.run later).hub.journal.openings = engine.hub.journal.openings) :
    (engine.along fetched later).length ≤ engine.reader.due
  -- the line in whose delivery the session was closed is the last one
  last (during later : List Step) (hsteps : ∀ step ∈ during ++ later, step.isPlain = true)
    (delivery : Delivery) (hreader : (engine.run during).reader = .delivering delivery)
    (hclosed : (engine.run during).phase ≠ .running)
    (hsession : (engine.run (during ++ later)).hub.journal.openings =
      (engine.run during).hub.journal.openings) :
    (engine.run (during ++ later)).hub.journal.received =
      engine.hub.journal.received ++ (engine.along fetched during).filterMap Fetch.line?
  -- and all who were to be called for it still are
  finishes (delivery : Delivery) (hreader : engine.reader = .delivering delivery) :
    ∃ later, (∀ step ∈ later, Step.finishes step = true) ∧
      (engine.run later).reader = .idle ∧
      (engine.run later).hub.journal.visits = engine.hub.journal.visits ++ delivery.visits

theorem received_of_closed (during later : List Step)
    (hsteps : ∀ step ∈ during ++ later, step.isPlain = true)
    (hreader : (engine.run during).reader = .delivering delivery)
    (hclosed : (engine.run during).phase ≠ .running)
    (hsession : (engine.run (during ++ later)).hub.journal.openings =
      (engine.run during).hub.journal.openings) :
    (engine.run (during ++ later)).hub.journal.received =
      engine.hub.journal.received ++ (engine.along fetched during).filterMap Fetch.line? := by
  obtain ⟨hduring, hlater⟩ := List.forall_mem_append.mp hsteps
  rw [run_append] at hsession ⊢
  have hdue : (engine.run during).reader.due = 0 := by
    rw [hreader]
    rfl
  have hnone := length_along_fetched_le hclosed hlater hsession
  rw [hdue, Nat.le_zero, List.length_eq_zero_iff] at hnone
  rw [(gathers_run (engine.run during) hlater).received, hnone, List.filterMap_nil,
    List.append_nil, (gathers_run engine hduring).received]

theorem visits_of_delivering (hreader : engine.reader = .delivering delivery) :
    ∃ later, (∀ step ∈ later, Step.finishes step = true) ∧
      (engine.run later).reader = .idle ∧
      (engine.run later).hub.journal.visits = engine.hub.journal.visits ++ delivery.visits := by
  obtain ⟨later, hlater, hidle⟩ := exists_idle engine delivery hreader
  have hgathers := gathers_run engine fun step hm => Step.isPlain_of_finishes (hlater step hm)
  have hvisits := hgathers.visits
  rw [along_fetched_of_finishes engine hlater, hidle, hreader] at hvisits
  refine ⟨later, hlater, hidle, ?_⟩
  simpa [Reader.visits] using hvisits

theorem attentive_run (config : Config) (steps : List Step)
    (hsteps : ∀ step ∈ steps, step.isPlain = true) : ((fresh config).run steps).Attentive where
  alive := alive_run config hsteps
  persists := received_attempts
  gathers _ hlater := gathers_run _ hlater
  stops _ hlater hclosed hsession := length_along_fetched_le hclosed hlater hsession
  last during later hsteps _ hreader hclosed hsession :=
    received_of_closed during later hsteps hreader hclosed hsession
  finishes _ hreader := visits_of_delivering hreader

-- Two observers, and the first of them closes the session.
def openSteps (channel : Channel) : List Step :=
  [.register channel (.close "first"), .register channel (.note "second"), .connect none]

-- A line comes after two errors, of which one only says that nothing came, and its delivery has
-- gone so far that the link is to be closed.
def closingSteps : List Step :=
  attempts [.failed ⟨.timedOut, none⟩, .failed ⟨.other, none⟩,
      .line ((Frame.ofData 0x123 [0x0D]).encode 1)] ++ [.observe, .observe]

-- The delivery goes on to its end, and no further line is read.
def partingSteps : List Step :=
  [.observe] ++ settling ++ [.observe, .observe, .observe, .observe, .observe] ++
    attempts [.line ((Frame.ofData 0x123 [0x0D]).encode 1)]

theorem attentive_run_closing :
    let engine := ((fresh (.forDevice "can")).run (openSteps 1)).run (closingSteps ++ partingSteps)
    engine.hub.journal.received = [(Frame.ofData 0x123 [0x0D]).encode 1] ∧
      engine.hub.journal.visits =
        [⟨1, 0, Frame.ofData 0x123 [0x0D]⟩, ⟨1, 1, Frame.ofData 0x123 [0x0D]⟩] ∧
      engine.hub.counters.readErrors = 1 := by
  intro engine
  have hattentive := attentive_run (.forDevice "can") (openSteps 1) (by decide)
  have hlast := hattentive.last closingSteps partingSteps (by decide) _ rfl (by decide) (by decide)
  have hgathers := hattentive.gathers (closingSteps ++ partingSteps) (by decide)
  refine ⟨hlast.trans (by decide), ?_, hgathers.readErrors.trans (by decide)⟩
  exact (List.append_nil _).symm.trans (hgathers.visits.trans (by decide))

end Engine

end QuadCan
