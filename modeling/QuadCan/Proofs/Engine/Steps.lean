import QuadCan.Engine.Basic

namespace QuadCan

theorem Reader.isEnded_iff {reader : Reader} : reader.isEnded = true ↔ reader = .ended := by
  cases reader with
  | ended => exact iff_of_true rfl rfl
  | _ => exact iff_of_false nofun nofun

namespace Engine

-- A link can be opened where there is none and no loop of an earlier session is left.
structure Vacant (engine : Engine) : Prop where
  phase : engine.phase = .closed
  writer : engine.writer = .ended
  reader : engine.reader = .ended

-- The states in which a step cannot be taken.
def Stuck (engine : Engine) : Step → Prop
  | .call _ _ | .push _ | .retire | .register _ _ => False
  | .connect _ => ¬ engine.Vacant
  | .shut => engine.phase ≠ .running
  | .release => engine.phase ≠ .stopping .caller
  | .rejoin =>
      ¬ (engine.phase = .released .caller ∧ engine.writer = .ended ∧ engine.reader = .ended)
  | .resume => ∀ carry, engine.writer ≠ .idle carry
  | .receive =>
      ∀ command rest, engine.writer = .waiting → engine.hub.pending ≠ command :: rest
  | .wake =>
      ¬ (engine.writer = .waiting ∧
        (engine.phase ≠ .running ∨ engine.hub.pending = [] ∧ engine.hub.accepting = false))
  | .confirm => ∀ command, engine.writer ≠ .holding command
  | .gather =>
      ∀ batch command rest, engine.writer = .gathering batch →
        engine.hub.pending = command :: rest →
          Batch.fit engine.config.batchLimit (Batch.size batch) command = .full
  | .ship => ∀ batch, engine.writer ≠ .gathering batch
  | .write _ => ∀ batch carry, engine.writer ≠ .writing batch carry
  | .poll => engine.reader ≠ .idle
  | .read _ => engine.reader ≠ .waiting
  | .observe =>
      ∀ delivery, engine.reader = .delivering delivery →
        engine.phase = .released .observer ∧ engine.writer ≠ .ended
  | .detach => engine.phase ≠ .closed

-- All that a step can do, with the states in which it does it. What is kept by every step is
-- proved from this, and so does not depend on how the step is put together.
inductive Does (before : Engine) : Step → Engine → Prop where
  | stuck {step : Step} (hstuck : before.Stuck step) : Does before step before
  -- callers
  | call (channel : Channel) (operation : Operation) :
      Does before (.call channel operation)
        { before with hub := (before.hub.call channel operation).2 }
  | push (command : Command) :
      Does before (.push command) { before with hub := before.hub.push command }
  | retire : Does before .retire { before with hub := before.hub.retire }
  | register (channel : Channel) (observer : Observer) :
      Does before (.register channel observer)
        { before with hub := before.hub.register channel observer }
  | refuse (fault : Fault) (hvacant : before.Vacant) :
      Does before (.connect (some fault)) (before.log (.unreachable fault))
  | begin (hvacant : before.Vacant) :
      Does before (.connect none)
        ({ before with phase := .running, writer := .idle none, reader := .idle }.log .connected)
  | shut (hphase : before.phase = .running) :
      Does before .shut { before with phase := .stopping .caller }
  | release (hphase : before.phase = .stopping .caller) :
      Does before .release ({ before with phase := .released .caller }.log .disconnected)
  | rejoin (hphase : before.phase = .released .caller) (hwriter : before.writer = .ended)
      (hreader : before.reader = .ended) : Does before .rejoin { before with phase := .closed }
  -- the write loop
  | wait (hphase : before.phase = .running) (hwriter : before.writer = .idle none) :
      Does before .resume { before with writer := .waiting }
  | retake {command : Command} (hphase : before.phase = .running)
      (hwriter : before.writer = .idle (some command)) :
      Does before .resume { before with writer := .holding command }
  | leave {carry : Option Command} (hphase : before.phase ≠ .running)
      (hwriter : before.writer = .idle carry) : Does before .resume (before.abandon carry)
  | receive {command : Command} {rest : List Command} (hwriter : before.writer = .waiting)
      (hpending : before.hub.pending = command :: rest) :
      Does before .receive
        { before with writer := .holding command, hub := { before.hub with pending := rest } }
  | wake (hwriter : before.writer = .waiting)
      (hreason : before.phase ≠ .running ∨
        before.hub.pending = [] ∧ before.hub.accepting = false) :
      Does before .wake { before with writer := .ended }
  | confirm {command : Command} (hphase : before.phase = .running)
      (hwriter : before.writer = .holding command) :
      Does before .confirm { before with writer := .gathering [command] }
  | discard {command : Command} (hphase : before.phase ≠ .running)
      (hwriter : before.writer = .holding command) :
      Does before .confirm (before.abandon (some command))
  | join {batch rest : List Command} {command : Command}
      (hwriter : before.writer = .gathering batch) (hpending : before.hub.pending = command :: rest)
      (hfit : Batch.fit before.config.batchLimit (Batch.size batch) command = .joins) :
      Does before .gather
        { before with
          writer := .gathering (batch ++ [command]), hub := { before.hub with pending := rest } }
  | overflow {batch rest : List Command} {command : Command}
      (hwriter : before.writer = .gathering batch) (hpending : before.hub.pending = command :: rest)
      (hfit : Batch.fit before.config.batchLimit (Batch.size batch) command = .overflows) :
      Does before .gather
        ({ before with hub := { before.hub with pending := rest } }.hand batch (some command))
  | ship {batch : List Command} (hwriter : before.writer = .gathering batch) :
      Does before .ship (before.hand batch none)
  | written {batch : List Command} {carry : Option Command}
      (hwriter : before.writer = .writing batch carry) :
      Does before (.write .written)
        (({ before with writer := .idle carry }.count fun counters =>
          { counters with
            batchesWritten := counters.batchesWritten + 1
            bytesWritten := counters.bytesWritten + UInt64.ofNat (Batch.size batch) }).log
          (.written batch))
  | lost {batch : List Command} {carry : Option Command}
      (hwriter : before.writer = .writing batch carry) :
      Does before (.write .failed)
        (({ before with writer := .idle carry }.count fun counters =>
          { counters with writeFailures := counters.writeFailures + 1 }).log (.lost batch))
  | crashed {batch : List Command} {carry : Option Command}
      (hwriter : before.writer = .writing batch carry) :
      Does before (.write .crashed) ((before.log (.crashed batch)).abandon carry)
  -- the read loop
  | poll (hphase : before.phase = .running) (hreader : before.reader = .idle) :
      Does before .poll { before with reader := .waiting }
  | quit (hphase : before.phase ≠ .running) (hreader : before.reader = .idle) :
      Does before .poll { before with reader := .ended }
  | line (line : Bytes) (hreader : before.reader = .waiting) :
      Does before (.read (.line line)) (before.proceed (before.hub.receive line))
  | giveUp (error : StreamError) (hphase : before.phase ≠ .running)
      (hreader : before.reader = .waiting) :
      Does before (.read (.failed error)) { before with reader := .ended }
  | retry (error : StreamError) (hphase : before.phase = .running)
      (hreader : before.reader = .waiting) (hidle : error.kind.isIdle = true) :
      Does before (.read (.failed error)) { before with reader := .idle }
  | failed (error : StreamError) (hphase : before.phase = .running)
      (hreader : before.reader = .waiting) (hidle : error.kind.isIdle = false) :
      Does before (.read (.failed error))
        (({ before with reader := .idle }.count fun counters =>
          { counters with readErrors := counters.readErrors + 1 }).log (.readFailed error))
  | die (hreader : before.reader = .waiting) :
      Does before (.read .crashed) { before with reader := .ended }
  -- observers
  | letGo {delivery : Delivery} (hphase : before.phase = .stopping .observer)
      (hreader : before.reader = .delivering delivery) :
      Does before .observe ({ before with phase := .released .observer }.log .disconnected)
  | goOn {delivery : Delivery} (hphase : before.phase = .released .observer)
      (hwriter : before.writer = .ended) (hreader : before.reader = .delivering delivery) :
      Does before .observe { before with phase := .closed }
  | close {delivery : Delivery} {actions : List Action} (hphase : before.phase = .running)
      (hreader : before.reader = .delivering delivery)
      (hactions : delivery.actions = .close :: actions) :
      Does before .observe
        { before with
          reader := .delivering { delivery with actions := actions }, phase := .stopping .observer }
  | pass {delivery : Delivery} {actions : List Action} (hphase : before.phase ≠ .running)
      (hfree : before.phase ≠ .stopping .observer ∧ before.phase ≠ .released .observer)
      (hreader : before.reader = .delivering delivery)
      (hactions : delivery.actions = .close :: actions) :
      Does before .observe
        { before with reader := .delivering { delivery with actions := actions } }
  | advance {delivery : Delivery}
      (hfree : before.phase ≠ .stopping .observer ∧ before.phase ≠ .released .observer)
      (hreader : before.reader = .delivering delivery)
      (hactions : ∀ actions, delivery.actions ≠ .close :: actions) :
      Does before .observe (before.proceed (before.hub.advance delivery))
  | detach (hphase : before.phase = .closed) :
      Does before .detach { before with reader := .ended }

private theorem does_connect (engine : Engine) (refusal : Option Fault) :
    engine.Does (.connect refusal) (engine.connect refusal).2 := by
  unfold connect
  split
  next h =>
    have hvacant : engine.Vacant := ⟨h.1, h.2.1, Reader.isEnded_iff.mp h.2.2⟩
    cases refusal with
    | some fault => exact .refuse fault hvacant
    | none => exact .begin hvacant
  next h =>
    exact .stuck fun hvacant =>
      h ⟨hvacant.phase, hvacant.writer, Reader.isEnded_iff.mpr hvacant.reader⟩

private theorem does_rejoin (engine : Engine) : engine.Does .rejoin engine.rejoin := by
  unfold rejoin
  split
  next h => exact .rejoin h.1 h.2.1 (Reader.isEnded_iff.mp h.2.2)
  next h =>
    exact .stuck fun ⟨hphase, hwriter, hreader⟩ =>
      h ⟨hphase, hwriter, Reader.isEnded_iff.mpr hreader⟩

private theorem does_resume (engine : Engine) : engine.Does .resume engine.resume := by
  unfold resume
  split
  next carry hwriter =>
    split
    next hphase =>
      cases carry with
      | none => exact .wait hphase hwriter
      | some command => exact .retake hphase hwriter
    next hphase => exact .leave hphase hwriter
  next hwriter => exact .stuck hwriter

private theorem does_gather (engine : Engine) : engine.Does .gather engine.gather := by
  unfold gather
  split
  next batch command rest hwriter hpending =>
    dsimp only
    split
    next hfit =>
      refine .stuck fun other first others hother hfirst => ?_
      rw [hwriter] at hother
      rw [hpending] at hfirst
      cases hother
      cases hfirst
      exact hfit
    next hfit => exact .join hwriter hpending hfit
    next hfit => exact .overflow hwriter hpending hfit
  next h => exact .stuck fun batch command rest hwriter hpending =>
      absurd hpending (h batch command rest hwriter)

private theorem does_write (engine : Engine) (outcome : WriteOutcome) :
    engine.Does (.write outcome) (engine.write outcome) := by
  unfold write
  split
  next batch carry hwriter =>
    cases outcome with
    | written => exact .written hwriter
    | failed => exact .lost hwriter
    | crashed => exact .crashed hwriter
  next hwriter => exact .stuck hwriter

private theorem does_poll (engine : Engine) : engine.Does .poll engine.poll := by
  unfold poll
  split
  next hreader =>
    split
    next hphase => exact .poll hphase hreader
    next hphase => exact .quit hphase hreader
  next hreader => exact .stuck hreader

private theorem does_read (engine : Engine) (outcome : ReadOutcome) :
    engine.Does (.read outcome) (engine.read outcome) := by
  unfold read
  split
  next hreader =>
    cases outcome with
    | line line => exact .line line hreader
    | crashed => exact .die hreader
    | failed error =>
      dsimp only
      split
      next hphase => exact .giveUp error hphase hreader
      next hphase =>
        have hrunning : engine.phase = .running := Decidable.of_not_not hphase
        split
        next hidle => exact .retry error hrunning hreader hidle
        next hidle => exact .failed error hrunning hreader (Bool.eq_false_iff.mpr hidle)
  next hreader => exact .stuck hreader

private theorem does_observe (engine : Engine) : engine.Does .observe engine.observe := by
  unfold observe
  split
  next delivery hreader =>
    split
    next hphase =>
      rw [release, if_pos hphase]
      exact .letGo hphase hreader
    next hphase =>
      split
      next hwriter => exact .goOn hphase hwriter hreader
      next hwriter => exact .stuck fun _ _ => ⟨hphase, hwriter⟩
    next hstopping hreleased =>
      split
      next actions hactions =>
        dsimp only
        split
        next hphase => exact .close hphase hreader hactions
        next hphase => exact .pass hphase ⟨hstopping, hreleased⟩ hreader hactions
      next hactions => exact .advance ⟨hstopping, hreleased⟩ hreader hactions
  next hreader => exact .stuck fun delivery h => absurd h (hreader delivery)

theorem does_step (engine : Engine) (step : Step) : engine.Does step (engine.step step) := by
  cases step with
  | call channel operation => exact .call channel operation
  | push command => exact .push command
  | retire => exact .retire
  | register channel observer => exact .register channel observer
  | connect refusal => exact does_connect engine refusal
  | shut =>
    simp only [Engine.step, shut]
    split
    next hphase => exact .shut hphase
    next hphase => exact .stuck hphase
  | release =>
    simp only [Engine.step, release]
    split
    next hphase => exact .release hphase
    next hphase => exact .stuck hphase
  | rejoin => exact does_rejoin engine
  | resume => exact does_resume engine
  | receive =>
    simp only [Engine.step, receive]
    split
    next hwriter hpending => exact .receive hwriter hpending
    next h => exact .stuck h
  | wake =>
    simp only [Engine.step, wake]
    split
    next h => exact .wake h.1 h.2
    next h => exact .stuck h
  | confirm =>
    simp only [Engine.step, confirm]
    split
    next hwriter =>
      split
      next hphase => exact .confirm hphase hwriter
      next hphase => exact .discard hphase hwriter
    next hwriter => exact .stuck hwriter
  | gather => exact does_gather engine
  | ship =>
    simp only [Engine.step, ship]
    split
    next hwriter => exact .ship hwriter
    next hwriter => exact .stuck hwriter
  | write outcome => exact does_write engine outcome
  | poll => exact does_poll engine
  | read outcome => exact does_read engine outcome
  | observe => exact does_observe engine
  | detach =>
    simp only [Engine.step, detach]
    split
    next hphase => exact .detach hphase
    next hphase => exact .stuck hphase

end Engine

end QuadCan
