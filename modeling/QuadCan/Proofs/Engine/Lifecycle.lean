import QuadCan.Proofs.Engine.Reopen
import QuadCan.Proofs.Engine.Writes
import QuadCan.Proofs.Hub.Gains

namespace QuadCan

-- The link has been opened and not been let go yet.
def Phase.isLinked : Phase → Bool
  | .running | .stopping _ => true
  | .closed | .released _ => false

namespace Engine

variable {engine before after : Engine} {step : Step}

-- What a step means to the session. The link opens only where there is none, it is let go
-- once, and the read loop begins to wait only while the link is open.
inductive Passes (before after : Engine) : Prop where
  | stays (hphase : after.phase = before.phase)
      (hreader : after.reader = .waiting → before.phase = .running ∨ before.reader = .waiting)
      (hjournal : Journal.Gains (fun event => event.isTurn = false)
        before.hub.journal after.hub.journal)
  | opens (hbefore : before.phase = .closed) (hafter : after.phase = .running)
      (hjournal : after.hub.journal = .connected :: before.hub.journal)
  | stops (closer : Closer) (hbefore : before.phase = .running)
      (hafter : after.phase = .stopping closer)
      (hjournal : after.hub.journal = before.hub.journal)
  | releases (closer : Closer) (hbefore : before.phase = .stopping closer)
      (hafter : after.phase = .released closer)
      (hjournal : after.hub.journal = .disconnected :: before.hub.journal)
  | ends (closer : Closer) (hbefore : before.phase = .released closer)
      (hafter : after.phase = .closed) (hreader : after.reader ≠ .waiting)
      (hjournal : after.hub.journal = before.hub.journal)

theorem passes_refl (engine : Engine) : engine.Passes engine :=
  .stays rfl Or.inr (.refl _)

-- A step of a caller or of the write loop that writes down one event at most.
private theorem passes_of_event {event : Event} (hphase : after.phase = before.phase)
    (hreader : after.reader = before.reader)
    (hjournal : after.hub.journal = event :: before.hub.journal) (hevent : event.isTurn = false) :
    before.Passes after :=
  .stays hphase (fun h => Or.inr (hreader ▸ h)) (hjournal ▸ Journal.gains_one _ hevent)

private theorem passes_of_journal (hphase : after.phase = before.phase)
    (hreader : after.reader = before.reader) (hjournal : after.hub.journal = before.hub.journal) :
    before.Passes after :=
  .stays hphase (fun h => Or.inr (hreader ▸ h)) (hjournal ▸ .refl _)

private theorem passes_of_local (hphase : after.phase = before.phase)
    (hreader : after.reader = .waiting → before.phase = .running ∨ before.reader = .waiting)
    (hjournal : before.hub.GainsLocal after.hub) : before.Passes after :=
  .stays hphase hreader (hjournal.mono fun _ => Event.isTurn_of_isLocal)

private theorem passes_abandon (engine : Engine) (command : Option Command) :
    engine.Passes (engine.abandon command) := by
  cases command with
  | none => exact passes_of_journal rfl rfl rfl
  | some command => exact passes_of_event rfl rfl rfl rfl

private theorem passes_crashed (engine : Engine) (batch : List Command) (carry : Option Command) :
    engine.Passes ((engine.log (.crashed batch)).abandon carry) := by
  have hcrashed : Journal.Gains (fun event => event.isTurn = false) engine.hub.journal
      (.crashed batch :: engine.hub.journal) := Journal.gains_one _ rfl
  cases carry with
  | none => exact .stays rfl Or.inr hcrashed
  | some command => exact .stays rfl Or.inr (hcrashed.cons rfl)

theorem proceed_ne_waiting (engine : Engine) (result : Hub × Option Delivery) :
    (engine.proceed result).reader ≠ .waiting := by
  obtain ⟨hub, delivery⟩ := result
  cases delivery with
  | _ => exact nofun

theorem Does.passes (h : before.Does step after) : before.Passes after := by
  cases h with
  | stuck => exact passes_refl before
  | call channel operation =>
    exact passes_of_local rfl Or.inr (Hub.gainsLocal_call before.hub channel operation)
  | push command => exact passes_of_local rfl Or.inr (Hub.gainsLocal_push before.hub command)
  | begin hvacant => exact .opens hvacant.phase rfl rfl
  | shut hphase => exact .stops .caller hphase rfl rfl
  | release hphase => exact .releases .caller hphase rfl rfl
  | rejoin hphase _ hreader => exact .ends .caller hphase rfl (by rw [hreader]; exact nofun) rfl
  | leave | discard => exact passes_abandon before _
  | crashed => exact passes_crashed before _ _
  -- the read loop begins to wait in one case, and goes on from its wait in others
  | poll hphase => exact .stays rfl (fun _ => Or.inl hphase) (.refl _)
  | line line hreader =>
    exact .stays rfl (fun _ => Or.inr hreader) (Hub.gains_receive before.hub line)
  | failed _ _ hreader => exact .stays rfl (fun _ => Or.inr hreader) (Journal.gains_one _ rfl)
  | quit | giveUp | retry | die | pass | detach => exact .stays rfl nofun (.refl _)
  | letGo hphase => exact .releases .observer hphase rfl rfl
  | goOn hphase _ hreader => exact .ends .observer hphase rfl (by rw [hreader]; exact nofun) rfl
  | close hphase => exact .stops .observer hphase rfl rfl
  | advance =>
    exact passes_of_local rfl (fun h => absurd h (proceed_ne_waiting before _))
      (Hub.gainsLocal_advance before.hub _)
  | refuse | overflow | ship | written | lost => exact passes_of_event rfl rfl rfl rfl
  | retire | register | wait | retake | receive | wake | confirm | join =>
    exact passes_of_journal rfl rfl rfl

theorem passes_step (engine : Engine) (step : Step) : engine.Passes (engine.step step) :=
  (does_step engine step).passes

-- The events of the link in a number of sessions that are over.
def rounds (count : Nat) : List Event :=
  (List.replicate count [Event.connected, Event.disconnected]).flatten

theorem rounds_succ (count : Nat) :
    rounds (count + 1) = rounds count ++ [.connected, .disconnected] := by
  rw [rounds, List.replicate_succ', List.flatten_append]
  rfl

theorem count_connected_rounds (count : Nat) : (rounds count).count .connected = count := by
  induction count with
  | zero => rfl
  | succ count ih => rw [rounds_succ, List.count_append, ih]; rfl

theorem count_disconnected_rounds (count : Nat) :
    (rounds count).count .disconnected = count := by
  induction count with
  | zero => rfl
  | succ count ih => rw [rounds_succ, List.count_append, ih]; rfl

-- The link is opened and let go in turns, and no read loop waits for a line once it is closed.
structure Paired (engine : Engine) : Prop where
  turns : ∃ count, engine.hub.journal.turns =
    rounds count ++ if engine.phase.isLinked then [.connected] else []
  reader : engine.phase = .closed → engine.reader ≠ .waiting

theorem Paired.passes (h : before.Paired) (hpasses : before.Passes after) : after.Paired := by
  obtain ⟨⟨count, hturns⟩, hbefore⟩ := h
  cases hpasses with
  | stays hphase hreader hjournal =>
    refine ⟨⟨count, by rw [hjournal.turns_eq, hphase]; exact hturns⟩, ?_⟩
    intro hclosed hwaiting
    rw [hphase] at hclosed
    rcases hreader hwaiting with hrunning | hwaited
    · rw [hclosed] at hrunning
      cases hrunning
    · exact hbefore hclosed hwaited
  | opens hclosed hafter hjournal =>
    refine ⟨⟨count, ?_⟩, fun h => by rw [hafter] at h; cases h⟩
    rw [hclosed] at hturns
    rw [hjournal, Journal.turns_cons, hturns, hafter]
    exact congrArg (· ++ _) (List.append_nil _)
  | stops closer hrunning hafter hjournal =>
    refine ⟨⟨count, ?_⟩, fun h => by rw [hafter] at h; cases h⟩
    rw [hrunning] at hturns
    rw [hjournal, hafter]
    exact hturns
  | releases closer hstopping hafter hjournal =>
    refine ⟨⟨count + 1, ?_⟩, fun h => by rw [hafter] at h; cases h⟩
    rw [hstopping] at hturns
    rw [hjournal, Journal.turns_cons, hturns, hafter, rounds_succ]
    simp [Phase.isLinked, Journal.turns, Journal.select, Event.isTurn]
  | ends closer hreleased hafter hreader hjournal =>
    refine ⟨⟨count, ?_⟩, fun _ => hreader⟩
    rw [hreleased] at hturns
    rw [hjournal, hafter]
    exact hturns

theorem paired_run (config : Config) (steps : List Step) :
    ((fresh config).run steps).Paired := by
  have hfresh : (fresh config).Paired := ⟨⟨0, rfl⟩, fun _ => nofun⟩
  generalize fresh config = engine at *
  induction steps generalizing engine with
  | nil => exact hfresh
  | cons step steps ih => exact ih _ (hfresh.passes (passes_step engine step))

-- No loop of a closed engine has work on its hands, apart from a delivery whose observer
-- has closed the session.
structure Dormant (engine : Engine) : Prop where
  phase : engine.phase = .closed
  writer : engine.writer = .ended
  reader : engine.reader ≠ .waiting

theorem dormant_of_closed (config : Config) (steps : List Step)
    (hclosed : ((fresh config).run steps).phase = .closed) : ((fresh config).run steps).Dormant :=
  ⟨hclosed, writer_of_closed config steps hclosed, (paired_run config steps).reader hclosed⟩

-- Until the link opens again nothing happens but what callers and observers do.
theorem Dormant.does (h : before.Dormant) (hdoes : before.Does step after) :
    after.hub.journal = .connected :: before.hub.journal ∨
      after.Dormant ∧ before.hub.GainsLocal after.hub := by
  obtain ⟨hclosed, hended, hquiet⟩ := h
  cases hdoes with
  | stuck => exact Or.inr ⟨⟨hclosed, hended, hquiet⟩, .refl _⟩
  | call channel operation =>
    exact Or.inr ⟨⟨hclosed, hended, hquiet⟩,
      Hub.gainsLocal_call before.hub channel operation⟩
  | push command =>
    exact Or.inr ⟨⟨hclosed, hended, hquiet⟩, Hub.gainsLocal_push before.hub command⟩
  | retire | register => exact Or.inr ⟨⟨hclosed, hended, hquiet⟩, .refl _⟩
  | refuse => exact Or.inr ⟨⟨hclosed, hended, hquiet⟩, Journal.gains_one _ rfl⟩
  | begin => exact Or.inl rfl
  | quit | pass | detach => exact Or.inr ⟨⟨hclosed, hended, nofun⟩, .refl _⟩
  | advance =>
    exact Or.inr ⟨⟨hclosed, hended, proceed_ne_waiting before _⟩,
      Hub.gainsLocal_advance before.hub _⟩
  | line _ hreader | giveUp _ _ hreader | retry _ _ hreader | failed _ _ hreader | die hreader =>
    exact absurd hreader hquiet
  | leave _ hwriter | receive hwriter | wake hwriter | discard _ hwriter | join hwriter
    | overflow hwriter | ship hwriter | written hwriter | lost hwriter | crashed hwriter =>
    exact absurd (hended.symm.trans hwriter) nofun
  | shut hphase | release hphase | rejoin hphase | wait hphase | retake hphase | confirm hphase
    | poll hphase | letGo hphase | goOn hphase | close hphase =>
    exact absurd (hclosed.symm.trans hphase) nofun

theorem openings_le_run (engine : Engine) (steps : List Step) :
    engine.hub.journal.openings ≤ (engine.run steps).hub.journal.openings := by
  obtain ⟨events, hjournal, -⟩ := exchanges_run engine steps
  rw [outflow_journal, outflow_journal] at hjournal
  rw [hjournal, Journal.openings, Journal.openings, List.countP_append]
  exact Nat.le_add_left _ _

theorem openings_of_gainsLocal {first second : Hub} (h : first.GainsLocal second) :
    second.journal.openings = first.journal.openings := by
  rw [← Journal.count_connected_turns, ← Journal.count_connected_turns,
    (h.mono fun _ => Event.isTurn_of_isLocal).turns_eq]

theorem Dormant.run (h : before.Dormant) (later : List Step)
    (hopenings : (before.run later).hub.journal.openings = before.hub.journal.openings) :
    (before.run later).Dormant ∧ before.hub.GainsLocal (before.run later).hub := by
  induction later generalizing before with
  | nil => exact ⟨h, .refl _⟩
  | cons step later ih =>
    have hrun : before.run (step :: later) = (before.step step).run later := rfl
    rw [hrun] at hopenings ⊢
    rcases h.does (does_step before step) with hopened | ⟨hdormant, hgains⟩
    · have hmore := openings_le_run (before.step step) later
      rw [hopenings, hopened, Journal.openings_cons] at hmore
      exact absurd hmore (Nat.not_le_of_gt (Nat.lt_add_of_pos_left Nat.one_pos))
    · have hsame := openings_of_gainsLocal hgains
      obtain ⟨hlast, hrest⟩ := ih hdormant (hopenings.trans hsame.symm)
      exact ⟨hlast, hgains.trans hrest⟩

theorem Paired.turns_eq (h : engine.Paired) :
    engine.hub.journal.turns = rounds engine.hub.journal.closings ++
      if engine.phase.isLinked then [.connected] else [] := by
  obtain ⟨⟨count, hturns⟩, -⟩ := h
  have hcount : engine.hub.journal.closings = count := by
    rw [← Journal.count_disconnected_turns, hturns, List.count_append, count_disconnected_rounds]
    cases engine.phase.isLinked with
    | _ => rfl
  rw [hcount]
  exact hturns

theorem connect_of_running (hphase : engine.phase = .running) (refusal : Option Fault) :
    engine.connect refusal = (.ok (), engine) := by
  unfold connect
  rw [if_neg]
  intro ⟨hclosed, _⟩
  rw [hphase] at hclosed
  cases hclosed

theorem Dormant.connect_eq (h : engine.Dormant) (hreader : engine.reader.isEnded = true)
    (refusal : Option Fault) :
    engine.connect refusal = match refusal with
      | some fault => (.error fault, engine.log (.unreachable fault))
      | none => (.ok (), { engine with
          phase := .running, writer := .idle none, reader := .idle }.log .connected) := by
  cases refusal with
  | _ => exact if_pos ⟨h.phase, h.writer, hreader⟩

-- A close of a closed link is over at once.
theorem step_of_closed (hphase : engine.phase = .closed) (step : Step)
    (hstep : step ∈ [Step.shut, .release, .rejoin]) : engine.step step = engine := by
  simp only [List.mem_cons, List.not_mem_nil, or_false] at hstep
  rcases hstep with rfl | rfl | rfl
  · simp only [Engine.step, shut, hphase, reduceCtorEq, if_false]
  · simp only [Engine.step, release, hphase, reduceCtorEq, if_false]
  · simp only [Engine.step, rejoin, hphase, reduceCtorEq, false_and, if_false]

theorem observe_of_closed (hphase : engine.phase = .closed) {delivery : Delivery}
    {actions : List Action} (hreader : engine.reader = .delivering delivery)
    (hactions : delivery.actions = .close :: actions) :
    engine.observe =
      { engine with reader := .delivering { delivery with actions := actions } } := by
  simp only [observe, hreader, hphase, hactions, reduceCtorEq, if_false]

-- A closed engine. A close does nothing, an open that the link refuses leaves nothing behind,
-- and no batch is handed over and no line comes in until the link has opened again.
structure AtRest (engine : Engine) : Prop where
  close : ∀ step ∈ [Step.shut, .release, .rejoin], engine.step step = engine
  observed : ∀ delivery actions, engine.reader = .delivering delivery →
    delivery.actions = .close :: actions →
    engine.observe = { engine with reader := .delivering { delivery with actions := actions } }
  opens : engine.reader.isEnded = true →
    (engine.connect none).1 = .ok () ∧ (engine.connect none).2.isOpen = true
  refused : engine.reader.isEnded = true → ∀ fault,
    let (result, after) := engine.connect (some fault)
    result = .error fault ∧ after.phase = .closed ∧
      after.hub.pending = engine.hub.pending ∧
      after.hub.observers = engine.hub.observers ∧
      after.hub.counters = engine.hub.counters ∧
      after.hub.journal.openings = engine.hub.journal.openings ∧
      after.hub.journal.closings = engine.hub.journal.closings
  silent : ∀ later, (engine.run later).hub.journal.openings = engine.hub.journal.openings →
    (engine.run later).hub.journal.handed = engine.hub.journal.handed ∧
      (engine.run later).hub.journal.written = engine.hub.journal.written ∧
      (engine.run later).hub.journal.received = engine.hub.journal.received

theorem Dormant.atRest (h : engine.Dormant) : engine.AtRest where
  close := step_of_closed h.phase
  observed _ _ := observe_of_closed h.phase
  opens hended := by
    rw [h.connect_eq hended]
    exact ⟨rfl, rfl⟩
  refused hended fault := by
    rw [h.connect_eq hended]
    exact ⟨rfl, h.phase, rfl, rfl, rfl, rfl, rfl⟩
  silent later hopenings := by
    obtain ⟨-, hgains⟩ := h.run later hopenings
    refine ⟨hgains.select_eq ?_, hgains.select_eq ?_, hgains.select_eq ?_⟩
    all_goals
      intro event hlocal
      cases event with
      | handed | written | received => cases hlocal
      | _ => rfl

theorem Paired.openings_eq (h : engine.Paired)
    (hphase : ∀ closer, engine.phase ≠ .stopping closer) :
    engine.hub.journal.openings =
      engine.hub.journal.closings + if engine.isOpen then 1 else 0 := by
  have hlinked : engine.phase.isLinked = engine.isOpen := by
    rw [isOpen]
    cases h : engine.phase with
    | stopping closer => exact absurd h (hphase closer)
    | _ => rfl
  rw [← Journal.count_connected_turns, h.turns_eq, List.count_append, count_connected_rounds,
    hlinked]
  cases engine.isOpen with
  | _ => rfl

end Engine

end QuadCan
