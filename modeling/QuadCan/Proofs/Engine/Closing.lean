import QuadCan.Proofs.Engine.Lifecycle

namespace QuadCan

namespace Closer

-- A close takes three steps, whoever makes it. The loops are told to stop, the link is let go,
-- and the close returns.
def stops : Closer → Step
  | .caller => .shut
  | .observer => .observe

def letsGo : Closer → Step
  | .caller => .release
  | .observer => .observe

def returns : Closer → Step
  | .caller => .rejoin
  | .observer => .observe

-- The phases of a close that is under way, with the step by which it goes on.
inductive Awaits (closer : Closer) : Phase → Step → Prop where
  | stopping : Awaits closer (.stopping closer) closer.letsGo
  | released : Awaits closer (.released closer) closer.returns

end Closer

namespace Engine

variable {engine before after : Engine} {closer : Closer} {step next : Step} {steps : List Step}

-- A caller can close at any time, and an observer in its turn.
def Asks (engine : Engine) : Closer → Prop
  | .caller => True
  | .observer => ∃ delivery actions,
      engine.reader = .delivering delivery ∧ delivery.actions = .close :: actions

-- An observer that closes is in the middle of its turn.
def Attended (engine : Engine) : Closer → Prop
  | .caller => True
  | .observer => ∃ delivery, engine.reader = .delivering delivery

-- The loops have ended for which a close waits. An observer does not wait for the read loop, which
-- it is itself a part of.
def Finished (engine : Engine) : Closer → Prop
  | .caller => engine.writer = .ended ∧ engine.reader = .ended
  | .observer => engine.writer = .ended

@[simp] theorem abandon_phase (engine : Engine) (command : Option Command) :
    (engine.abandon command).phase = engine.phase := by
  cases command with
  | _ => rfl

@[simp] theorem abandon_reader (engine : Engine) (command : Option Command) :
    (engine.abandon command).reader = engine.reader := by
  cases command with
  | _ => rfl

theorem ne_running_of_released (hphase : engine.phase = .released closer) :
    engine.phase ≠ .running := by
  intro hrunning
  cases hphase.symm.trans hrunning

-- Only a close ends a session.
theorem Does.asks (h : before.Does step after) (hphase : before.phase = .running) :
    after.phase = .running ∨ ∃ closer, before.Asks closer ∧ step = closer.stops := by
  cases h with
  | begin => exact Or.inl rfl
  | shut => exact Or.inr ⟨.caller, trivial, rfl⟩
  | close _ hreader hactions => exact Or.inr ⟨.observer, ⟨_, _, hreader, hactions⟩, rfl⟩
  | release hother | rejoin hother | letGo hother | goOn hother =>
    exact absurd (hphase.symm.trans hother) nofun
  | leave | discard | crashed => exact Or.inl ((abandon_phase _ _).trans hphase)
  | _ => exact Or.inl hphase

-- Only its closer leads a close on.
theorem Does.phase_eq (h : before.Does step after) (hphase : closer.Awaits before.phase next)
    (hstep : step ≠ next) : after.phase = before.phase := by
  cases h with
  | begin hvacant =>
    rw [hvacant.phase] at hphase
    cases hphase
  | shut hother | close hother =>
    rw [hother] at hphase
    cases hphase
  | release hother | rejoin hother | letGo hother | goOn hother =>
    rw [hother] at hphase
    cases hphase with
    | _ => exact absurd rfl hstep
  | leave | discard | crashed => exact abandon_phase _ _
  | _ => rfl

theorem Does.delivering {delivery : Delivery} (h : before.Does step after)
    (hphase : before.phase ≠ .closed) (hstep : step ≠ .observe)
    (hreader : before.reader = .delivering delivery) : after.reader = .delivering delivery := by
  cases h with
  | begin hvacant => exact absurd hvacant.phase hphase
  | detach hclosed => exact absurd hclosed hphase
  | poll _ hother | quit _ hother | line _ hother | giveUp _ _ hother | retry _ _ hother
    | failed _ _ hother | die hother => exact absurd (hreader.symm.trans hother) nofun
  | letGo | goOn | close | pass | advance => exact absurd rfl hstep
  | leave | discard | crashed => exact (abandon_reader _ _).trans hreader
  | _ => exact hreader

theorem Does.attended (h : before.Does step after) (hphase : closer.Awaits before.phase next)
    (hstep : step ≠ next) (hattended : before.Attended closer) : after.Attended closer := by
  cases closer with
  | caller => trivial
  | observer =>
    obtain ⟨delivery, hreader⟩ := hattended
    have hclosed : before.phase ≠ .closed := by
      intro hclosed
      rw [hclosed] at hphase
      cases hphase
    have hobserve : step ≠ .observe := by
      generalize before.phase = phase at hphase
      cases hphase with
      | _ => exact hstep
    exact ⟨delivery, h.delivering hclosed hobserve hreader⟩

theorem Passes.turns_eq (h : before.Passes after) (hphase : after.phase = before.phase) :
    after.hub.journal.turns = before.hub.journal.turns := by
  cases h with
  | stays _ _ hjournal => exact hjournal.turns_eq
  | stops _ _ _ hjournal | ends _ _ _ _ hjournal => rw [hjournal]
  | opens hbefore hafter | releases _ hbefore hafter =>
    exact absurd (hbefore.symm.trans (hphase.symm.trans hafter)) nofun

-- A close that is under way stays where it is until its closer leads it on.
structure Still (before after : Engine) (closer : Closer) : Prop where
  phase : after.phase = before.phase
  turns : after.hub.journal.turns = before.hub.journal.turns
  attended : after.Attended closer

theorem still_run (hphase : closer.Awaits engine.phase next) (hattended : engine.Attended closer)
    (hsteps : next ∉ steps) : engine.Still (engine.run steps) closer := by
  induction steps generalizing engine with
  | nil => exact ⟨rfl, rfl, hattended⟩
  | cons step steps ih =>
    obtain ⟨hstep, hrest⟩ := List.ne_and_not_mem_of_not_mem_cons hsteps
    have hdoes := does_step engine step
    have hsame := hdoes.phase_eq hphase hstep.symm
    have hlater := ih (hsame.symm ▸ hphase) (hdoes.attended hphase hstep.symm hattended) hrest
    exact ⟨hlater.phase.trans hsame, hlater.turns.trans (hdoes.passes.turns_eq hsame),
      hlater.attended⟩

-- The three steps of a close, where they can be taken.
theorem step_stops (hphase : engine.phase = .running) (hasks : engine.Asks closer) :
    (engine.step closer.stops).phase = .stopping closer ∧
      (engine.step closer.stops).hub = engine.hub ∧
      (engine.step closer.stops).Attended closer := by
  cases closer with
  | caller =>
    have hstep : engine.step .shut = { engine with phase := .stopping .caller } := if_pos hphase
    rw [Closer.stops, hstep]
    exact ⟨rfl, rfl, trivial⟩
  | observer =>
    obtain ⟨delivery, actions, hreader, hactions⟩ := hasks
    have hstep : engine.step .observe =
        { engine with
          reader := .delivering { delivery with actions := actions }
          phase := .stopping .observer } := by
      simp only [Engine.step, observe, hreader, hphase, hactions, if_true]
    rw [Closer.stops, hstep]
    exact ⟨rfl, rfl, _, rfl⟩

theorem step_letsGo (hphase : engine.phase = .stopping closer)
    (hattended : engine.Attended closer) :
    engine.step closer.letsGo = { engine with phase := .released closer }.log .disconnected := by
  cases closer with
  | caller => exact if_pos hphase
  | observer =>
    obtain ⟨delivery, hreader⟩ := hattended
    simp only [Closer.letsGo, Engine.step, observe, hreader, hphase, release, if_true]

theorem step_returns (hphase : engine.phase = .released closer)
    (hattended : engine.Attended closer) :
    (engine.Finished closer → engine.step closer.returns = { engine with phase := .closed }) ∧
      (¬ engine.Finished closer → engine.step closer.returns = engine) := by
  cases closer with
  | caller =>
    constructor
    · rintro ⟨hwriter, hreader⟩
      exact if_pos ⟨hphase, hwriter, Reader.isEnded_iff.mpr hreader⟩
    · intro h
      exact if_neg fun ⟨_, hwriter, hreader⟩ => h ⟨hwriter, Reader.isEnded_iff.mp hreader⟩
  | observer =>
    obtain ⟨delivery, hreader⟩ := hattended
    have hstep : engine.step .observe =
        if engine.writer = .ended then { engine with phase := .closed } else engine := by
      simp only [Engine.step, observe, hreader, hphase]
    exact ⟨fun h => hstep.trans (if_pos h), fun h => hstep.trans (if_neg h)⟩

theorem still_stops (hphase : engine.phase = .running) (hasks : engine.Asks closer)
    (hsteps : closer.letsGo ∉ steps) :
    (engine.run (closer.stops :: steps)).phase = .stopping closer ∧
      (engine.run (closer.stops :: steps)).Attended closer ∧
      (engine.run (closer.stops :: steps)).hub.journal.turns = engine.hub.journal.turns := by
  obtain ⟨hstopping, hhub, hattended⟩ := step_stops hphase hasks
  have hawaits : closer.Awaits (engine.step closer.stops).phase closer.letsGo :=
    hstopping.symm ▸ .stopping
  have hstill := still_run hawaits hattended hsteps
  exact ⟨hstill.phase.trans hstopping, hstill.attended,
    hstill.turns.trans (congrArg (·.journal.turns) hhub)⟩

theorem still_letsGo (hphase : engine.phase = .stopping closer)
    (hattended : engine.Attended closer) (hsteps : closer.returns ∉ steps) :
    (engine.run (closer.letsGo :: steps)).phase = .released closer ∧
      (engine.run (closer.letsGo :: steps)).Attended closer ∧
      (engine.run (closer.letsGo :: steps)).hub.journal.turns =
        engine.hub.journal.turns ++ [.disconnected] := by
  have hstep := step_letsGo hphase hattended
  have hreleased : (engine.step closer.letsGo).phase = .released closer := by
    rw [hstep]
    rfl
  have hturns : (engine.step closer.letsGo).hub.journal.turns =
      engine.hub.journal.turns ++ [.disconnected] := by
    rw [hstep]
    exact Journal.turns_cons .disconnected engine.hub.journal
  have hstays : (engine.step closer.letsGo).Attended closer := by
    rw [hstep]
    cases closer with
    | _ => exact hattended
  have hawaits : closer.Awaits (engine.step closer.letsGo).phase closer.returns :=
    hreleased.symm ▸ .released
  have hstill := still_run hawaits hstays hsteps
  exact ⟨hstill.phase.trans hreleased, hstill.attended, hstill.turns.trans hturns⟩

theorem still_released {first second : List Step} (hphase : engine.phase = .running)
    (hasks : engine.Asks closer) (hfirst : closer.letsGo ∉ first)
    (hsecond : closer.returns ∉ second) :
    let released := engine.run (closer.stops :: first ++ closer.letsGo :: second)
    released.phase = .released closer ∧ released.Attended closer ∧
      released.hub.journal.turns = engine.hub.journal.turns ++ [.disconnected] := by
  obtain ⟨hstopping, hattended, hturns⟩ := still_stops hphase hasks hfirst
  have hreleased := still_letsGo hstopping hattended hsecond
  rw [hturns, ← run_append] at hreleased
  exact hreleased

end Engine

end QuadCan
