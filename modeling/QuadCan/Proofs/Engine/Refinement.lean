import QuadCan.Proofs.Engine.Outflow
import QuadCan.Proofs.Engine.Steps

namespace QuadCan

open Outflow

namespace Hub

def outflow (hub : Hub) (limit : Nat) (phase : Phase) (writer : Writer) : Outflow :=
  ⟨limit, phase, hub.accepting, hub.pending, writer, hub.journal⟩

-- What the queue takes in of the commands that it is given.
def admitted (hub : Hub) (commands : List Command) : List Command :=
  if hub.accepting then commands else []

-- A change to a hub that shows on the way out by these new commands at most.
def Feeds (before after : Hub) (commands : List Command) : Prop :=
  ∀ limit phase writer,
    Moves (before.outflow limit phase writer) commands (after.outflow limit phase writer)

theorem Feeds.refl (hub : Hub) : hub.Feeds hub [] :=
  fun _ _ _ => .refl

theorem Feeds.trans {first second third : Hub} {commands others : List Command}
    (h : first.Feeds second commands) (h' : second.Feeds third others) :
    first.Feeds third (commands ++ others) :=
  fun limit phase writer => (h limit phase writer).trans (h' limit phase writer)

theorem Feeds.accepting {before after : Hub} {commands : List Command}
    (h : before.Feeds after commands) : after.accepting = before.accepting :=
  (h 0 .closed .ended).accepting

theorem feeds_log (hub : Hub) {event : Event} (h : event.isOutbound = false) :
    hub.Feeds (hub.log event) [] :=
  fun limit phase writer => Move.moves (.note (hub.outflow limit phase writer) h)

theorem admitted_nil (hub : Hub) : hub.admitted [] = [] :=
  ite_self []

theorem Feeds.admitted_nil {before after : Hub} (h : before.Feeds after []) :
    before.Feeds after (before.admitted []) := by
  rw [Hub.admitted_nil]
  exact h

theorem feeds_push (hub : Hub) (command : Command) :
    hub.Feeds (hub.push command) (hub.admitted [command]) := by
  unfold push admitted
  by_cases h : hub.accepting = true
  · rw [if_pos h, if_pos h]
    intro limit phase writer
    have haccepting : (hub.outflow limit phase writer).accepting = true := h
    exact Moves.refl.accept haccepting command
  · rw [if_neg h, if_neg h]
    exact feeds_log hub rfl

theorem Feeds.append {first second third : Hub} {commands others : List Command}
    (h : first.Feeds second (first.admitted commands))
    (h' : second.Feeds third (second.admitted others)) :
    first.Feeds third (first.admitted (commands ++ others)) := by
  have hadmitted : first.admitted (commands ++ others) =
      first.admitted commands ++ second.admitted others := by
    rw [admitted, admitted, admitted, h.accepting]
    split
    next => rfl
    next => rfl
  rw [hadmitted]
  exact h.trans h'

theorem feeds_foldl {step : Hub → α → Hub} {given : α → List Command}
    (hstep : ∀ (hub : Hub) input, hub.Feeds (step hub input) (hub.admitted (given input)))
    (hub : Hub) (inputs : List α) :
    hub.Feeds (inputs.foldl step hub) (hub.admitted (inputs.flatMap given)) := by
  induction inputs generalizing hub with
  | nil => exact (Feeds.refl hub).admitted_nil
  | cons input inputs ih => exact (hstep hub input).append (ih _)

theorem feeds_foldl_push (hub : Hub) (commands : List Command) :
    hub.Feeds (commands.foldl push hub) (hub.admitted commands) := by
  have hfeeds := feeds_foldl feeds_push hub commands
  rw [List.flatMap_singleton'] at hfeeds
  exact hfeeds

theorem feeds_call (hub : Hub) (channel : Channel) (operation : Operation) :
    hub.Feeds (hub.call channel operation).2
      (hub.admitted ((operation.commands channel).toOption.getD [])) := by
  unfold call
  cases operation.commands channel with
  | ok commands => exact feeds_foldl_push hub commands
  | error fault => exact feeds_foldl_push hub []

-- The command that an action gives to the queue.
def commandOf : Option Action → List Command
  | some (.send channel frame) => [frame.encode channel.val]
  | _ => []

theorem feeds_act (hub : Hub) (channel : Channel) (frame : Frame) (action : Action) :
    hub.Feeds (hub.act channel frame action) (hub.admitted (commandOf (some action))) := by
  cases action with
  | send => exact feeds_push hub _
  | note => exact (feeds_log hub rfl).admitted_nil
  | panic => exact (feeds_log hub rfl).admitted_nil
  | _ => exact (Feeds.refl hub).admitted_nil

theorem feeds_advance (hub : Hub) (delivery : Delivery) :
    hub.Feeds (hub.advance delivery).1 (hub.admitted (commandOf delivery.actions.head?)) := by
  obtain ⟨channel, frame, actions, waiting⟩ := delivery
  match actions, waiting with
  | [], [] => exact (Feeds.refl hub).admitted_nil
  | [], _ :: _ => exact (feeds_log hub rfl).admitted_nil
  | action :: _, _ => exact feeds_act hub channel frame action

theorem feeds_classify (hub : Hub) (channel : Channel) (payload : Bytes) :
    hub.Feeds (hub.classify channel payload).1 [] := by
  unfold classify
  split
  next => exact .refl hub
  next =>
    split
    next => exact feeds_log _ rfl
    next => exact feeds_log _ rfl

theorem feeds_receive (hub : Hub) (line : Bytes) : hub.Feeds (hub.receive line).1 [] := by
  have hlogged : hub.Feeds ((hub.count fun counters =>
      { counters with linesReceived := counters.linesReceived + 1 }).log (.received line)) [] :=
    feeds_log _ rfl
  unfold receive
  split
  next => exact hlogged
  next => exact hlogged.trans (feeds_classify _ _ _)

end Hub

namespace Engine

def outflow (engine : Engine) : Outflow :=
  engine.hub.outflow engine.config.batchLimit engine.phase engine.writer

@[simp] theorem outflow_pending (engine : Engine) :
    engine.outflow.pending = engine.hub.pending := rfl

@[simp] theorem outflow_writer (engine : Engine) : engine.outflow.writer = engine.writer := rfl

@[simp] theorem outflow_journal (engine : Engine) :
    engine.outflow.journal = engine.hub.journal := rfl

-- The action that an observer takes next. An observer that closes the session
-- waits for that first.
def action? (engine : Engine) : Option Action :=
  match engine.reader with
  | .delivering delivery =>
      if engine.phase = .stopping .observer ∨ engine.phase = .released .observer then none
      else delivery.actions.head?
  | _ => none

-- The commands that callers and observers give to the queue in a step.
def submitted (engine : Engine) : Step → List Command
  | .call channel operation => (operation.commands channel).toOption.getD []
  | .push command => [command]
  | .observe => Hub.commandOf engine.action?
  | _ => []

variable {engine before after : Engine} {step : Step}

private theorem submitted_observe {delivery : Delivery}
    (hfree : engine.phase ≠ .stopping .observer ∧ engine.phase ≠ .released .observer)
    (hreader : engine.reader = .delivering delivery) :
    engine.submitted .observe = Hub.commandOf delivery.actions.head? := by
  rw [submitted, action?, hreader]
  exact congrArg Hub.commandOf (if_neg (not_or.2 hfree))

-- An observer that waits for the session to be closed does nothing else.
private theorem submitted_of_closing
    (h : engine.phase = .stopping .observer ∨ engine.phase = .released .observer) :
    engine.submitted .observe = [] := by
  rw [submitted, action?]
  split
  next =>
    rw [if_pos h]
    rfl
  next => rfl

theorem submitted_of_stuck (hstuck : engine.Stuck step) : engine.submitted step = [] := by
  cases step with
  | call | push => cases hstuck
  | observe =>
    cases hreader : engine.reader with
    | delivering delivery => exact submitted_of_closing (Or.inr (hstuck delivery hreader).1)
    | _ => rw [submitted, action?, hreader]; rfl
  | _ => rfl

private theorem moves_silent {commands : List Command}
    (h : Moves before.outflow [] after.outflow) (hcommands : commands = []) :
    Moves before.outflow (before.hub.admitted commands) after.outflow := by
  rw [hcommands, Hub.admitted_nil]
  exact h

private theorem moves_turn (engine : Engine) (phase : Phase)
    (h : phase = .closed → engine.writer = .ended) :
    Moves engine.outflow [] (outflow { engine with phase := phase }) :=
  Move.moves (.turn _ h)

private theorem moves_release (engine : Engine) (closer : Closer) :
    Moves engine.outflow []
      ({ engine with phase := .released closer }.log .disconnected).outflow :=
  (moves_turn engine (.released closer) nofun).move (.note _ rfl)

private theorem moves_abandon (engine : Engine) {carry : Option Command}
    (hwriter : engine.writer = .idle carry) :
    Moves engine.outflow [] (engine.abandon carry).outflow := by
  cases carry with
  | none => exact Move.moves (.stop _ (.inl hwriter))
  | some command => exact Move.moves (.abandon _ (.inl hwriter))

-- A crash settles the write and ends the loop in one step of the engine.
private theorem moves_crashed {batch : List Command} {carry : Option Command}
    (hwriter : engine.writer = .writing batch carry) :
    Moves engine.outflow [] ((engine.log (.crashed batch)).abandon carry).outflow := by
  have hsettle := Move.moves (.settle engine.outflow hwriter .crashed)
  cases carry with
  | none => exact hsettle.move (.stop _ (.inl rfl))
  | some command => exact hsettle.move (.abandon _ (.inl rfl))

theorem Does.moves (h : before.Does step after) (hstep : step ≠ .retire) :
    Moves before.outflow (before.hub.admitted (before.submitted step)) after.outflow := by
  cases h with
  | stuck hstuck => exact moves_silent .refl (submitted_of_stuck hstuck)
  | call channel operation => exact Hub.feeds_call before.hub channel operation _ _ _
  | push command => exact Hub.feeds_push before.hub command _ _ _
  | retire => exact absurd rfl hstep
  | refuse => exact moves_silent (Move.moves (.note _ rfl)) rfl
  | begin hvacant => exact moves_silent (Move.moves (.begin _ hvacant.writer)) rfl
  | shut => exact moves_silent (moves_turn before _ nofun) rfl
  | release => exact moves_silent (moves_release before .caller) rfl
  | rejoin _ hwriter => exact moves_silent (moves_turn before _ fun _ => hwriter) rfl
  | wait hphase hwriter => exact moves_silent (Move.moves (.wait _ hphase hwriter)) rfl
  | retake hphase hwriter => exact moves_silent (Move.moves (.retake _ hphase hwriter)) rfl
  | leave _ hwriter => exact moves_silent (moves_abandon before hwriter) rfl
  | receive hwriter hpending =>
    exact moves_silent (Move.moves (.receive _ hwriter hpending)) rfl
  | wake hwriter => exact moves_silent (Move.moves (.stop _ (.inr hwriter))) rfl
  | confirm hphase hwriter => exact moves_silent (Move.moves (.confirm _ hphase hwriter)) rfl
  | discard _ hwriter => exact moves_silent (Move.moves (.abandon _ (.inr hwriter))) rfl
  | join hwriter hpending hfit =>
    exact moves_silent (Move.moves (.join _ hwriter hpending hfit)) rfl
  | overflow hwriter hpending hfit =>
    exact moves_silent (Move.moves (.overflow _ hwriter hpending hfit)) rfl
  | ship hwriter => exact moves_silent (Move.moves (.ship _ hwriter)) rfl
  | written hwriter => exact moves_silent (Move.moves (.settle _ hwriter .written)) rfl
  | lost hwriter => exact moves_silent (Move.moves (.settle _ hwriter .lost)) rfl
  | crashed hwriter => exact moves_silent (moves_crashed hwriter) rfl
  | line line => exact moves_silent (Hub.feeds_receive before.hub line _ _ _) rfl
  | failed => exact moves_silent (Move.moves (.note _ rfl)) rfl
  | letGo hphase =>
    exact moves_silent (moves_release before .observer) (submitted_of_closing (Or.inl hphase))
  | goOn hphase hwriter =>
    exact moves_silent (moves_turn before _ fun _ => hwriter)
      (submitted_of_closing (Or.inr hphase))
  | close hphase hreader hactions =>
    refine moves_silent (moves_turn before _ nofun) ?_
    rw [submitted_observe (by rw [hphase]; exact ⟨nofun, nofun⟩) hreader, hactions]
    rfl
  | pass _ hfree hreader hactions =>
    refine moves_silent .refl ?_
    rw [submitted_observe hfree hreader, hactions]
    rfl
  | advance hfree hreader =>
    rw [submitted_observe hfree hreader]
    exact Hub.feeds_advance before.hub _ _ _ _
  | register | poll | quit | giveUp | retry | die | detach => exact moves_silent .refl rfl

-- Each step of an engine is a few moves on its way out, with the commands of
-- callers and observers in between.
theorem moves_step (engine : Engine) {step : Step} (hstep : step ≠ .retire) :
    Moves engine.outflow (engine.hub.admitted (engine.submitted step))
      (engine.step step).outflow :=
  (does_step engine step).moves hstep

theorem invariant_step {Holds : Outflow → Prop} (hinvariant : Invariant Holds)
    (engine : Engine) (step : Step) (h : Holds engine.outflow) :
    Holds (engine.step step).outflow := by
  by_cases hretire : step = .retire
  · subst hretire
    exact hinvariant.retire h
  · exact hinvariant.moves (moves_step engine hretire) h

theorem invariant_run {Holds : Outflow → Prop} (hinvariant : Invariant Holds) {engine : Engine}
    (h : Holds engine.outflow) (steps : List Step) : Holds (engine.run steps).outflow := by
  induction steps generalizing engine with
  | nil => exact h
  | cons step steps ih => exact ih (invariant_step hinvariant engine step h)

-- The commands that callers and observers give to the queue in a run.
def submissions (engine : Engine) : List Step → List Command
  | [] => []
  | step :: steps => engine.submitted step ++ (engine.step step).submissions steps

-- As long as callers are left the queue takes in all that it is given.
theorem moves_run {engine : Engine} (h : engine.hub.accepting = true) {steps : List Step}
    (hsteps : .retire ∉ steps) :
    Moves engine.outflow (engine.submissions steps) (engine.run steps).outflow := by
  induction steps generalizing engine with
  | nil => exact .refl
  | cons step steps ih =>
    obtain ⟨hhead, htail⟩ := List.ne_and_not_mem_of_not_mem_cons hsteps
    have hstep := moves_step engine hhead.symm
    have haccepting : (engine.step step).hub.accepting = true := hstep.accepting.trans h
    rw [Hub.admitted, if_pos h] at hstep
    exact hstep.trans (ih haccepting htail)

theorem accepted_run_eq_submissions (config : Config) {steps : List Step}
    (hsteps : .retire ∉ steps) :
    ((fresh config).run steps).hub.journal.accepted = (fresh config).submissions steps :=
  (moves_run rfl hsteps).accepted

end Engine

end QuadCan
