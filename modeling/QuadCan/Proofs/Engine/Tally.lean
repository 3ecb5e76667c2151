import QuadCan.Proofs.Engine.Refinement
import QuadCan.Proofs.Engine.Runs
import QuadCan.Proofs.Hub.Tally

namespace QuadCan

def WriteOutcome.event (batch : List Command) : WriteOutcome → Event
  | .written => .written batch
  | .failed => .lost batch
  | .crashed => .crashed batch

namespace Engine

-- What the link answers in a step: the end of a write, or what a waiting read loop gets. An error
-- is one only where the link is open, and not if it just says that nothing came.
def answered (engine : Engine) : Step → List Event
  | .read outcome =>
      match engine.reader, outcome with
      | .waiting, .line line => [.received line]
      | .waiting, .failed error =>
          if engine.isOpen = true ∧ error.kind.isIdle = false then [.readFailed error] else []
      | _, _ => []
  | .write outcome =>
      match engine.writer with
      | .writing batch _ => [outcome.event batch]
      | _ => []
  | _ => []

-- The commands that the queue takes in.
def admissions (engine : Engine) (step : Step) : List Command :=
  engine.hub.admitted (engine.submitted step)

variable {engine before after : Engine} {step : Step}

theorem answered_of_stuck (hstuck : engine.Stuck step) : engine.answered step = [] := by
  cases step with
  | write =>
    cases hwriter : engine.writer with
    | writing batch carry => exact absurd hwriter (hstuck batch carry)
    | _ => rw [answered, hwriter]
  | read =>
    cases hreader : engine.reader with
    | waiting => exact absurd hreader hstuck
    | _ => simp only [answered, hreader]
  | _ => rfl

private theorem answered_write {batch : List Command} {carry : Option Command}
    (hwriter : engine.writer = .writing batch carry) (outcome : WriteOutcome) :
    engine.answered (.write outcome) = [outcome.event batch] := by
  rw [answered, hwriter]

private theorem answered_failed (hreader : engine.reader = .waiting) (error : StreamError) :
    engine.answered (.read (.failed error)) =
      if engine.phase = .running ∧ error.kind.isIdle = false then [.readFailed error]
      else [] := by
  simp only [answered, hreader, isOpen, decide_eq_true_eq]

private theorem books_abandon (engine : Engine) (command : Option Command) :
    engine.hub.Books (engine.abandon command).hub [] := by
  cases command with
  | none => exact .refl engine.hub
  | some command => exact Hub.books_log engine.hub rfl

private theorem books_hand (engine : Engine) (pending batch : List Command)
    (carry : Option Command) :
    engine.hub.Books
      ({ engine with hub := { engine.hub with pending := pending } }.hand batch carry).hub [] :=
  Hub.books_log { engine.hub with pending := pending } rfl

private theorem books_crashed (engine : Engine) (batch : List Command) (carry : Option Command) :
    engine.hub.Books ((engine.log (.crashed batch)).abandon carry).hub [.crashed batch] := by
  have hcrashed : engine.hub.Books (engine.log (.crashed batch)).hub [.crashed batch] :=
    ⟨[.crashed batch], rfl, rfl, rfl⟩
  exact hcrashed.trans (books_abandon _ carry)

theorem Does.books (h : before.Does step after) :
    before.hub.Books after.hub (before.answered step) := by
  cases h with
  | stuck hstuck =>
    rw [answered_of_stuck hstuck]
    exact .refl before.hub
  | call channel operation => exact Hub.books_call before.hub channel operation
  | push command => exact Hub.books_push before.hub command
  | leave | discard => exact books_abandon before _
  | overflow => exact books_hand before _ _ _
  | ship => exact books_hand before before.hub.pending _ _
  | written hwriter =>
    rw [answered_write hwriter]
    exact ⟨[.written _], rfl, rfl, rfl⟩
  | lost hwriter =>
    rw [answered_write hwriter]
    exact ⟨[.lost _], rfl, rfl, rfl⟩
  | crashed hwriter =>
    rw [answered_write hwriter]
    exact books_crashed before _ _
  | line line hreader =>
    simp only [answered, hreader]
    exact Hub.books_receive before.hub line
  | giveUp error hphase hreader =>
    rw [answered_failed hreader, if_neg fun h => hphase h.1]
    exact .refl before.hub
  | retry error _ hreader hidle =>
    have hcounted : ¬ (before.phase = .running ∧ error.kind.isIdle = false) :=
      fun ⟨_, hother⟩ => Bool.noConfusion (hidle.symm.trans hother)
    rw [answered_failed hreader, if_neg hcounted]
    exact .refl before.hub
  | failed error hphase hreader hidle =>
    rw [answered_failed hreader, if_pos ⟨hphase, hidle⟩]
    exact ⟨[.readFailed error], rfl, rfl, rfl⟩
  | die hreader =>
    simp only [answered, hreader]
    exact .refl before.hub
  | advance => exact Hub.books_advance before.hub _
  | refuse | begin | release | letGo => exact Hub.books_log before.hub rfl
  | retire | register | receive | join => exact Hub.books_of_eq rfl rfl
  | shut | rejoin | wait | retake | wake | confirm | poll | quit | goOn | close | pass | detach =>
    exact .refl before.hub

-- Each step is written down and counted, and the link answers what it says.
theorem books_step (engine : Engine) (step : Step) :
    engine.hub.Books (engine.step step).hub (engine.answered step) :=
  (does_step engine step).books

theorem accepted_step (engine : Engine) (step : Step) :
    (engine.step step).hub.journal.accepted =
      engine.hub.journal.accepted ++ engine.admissions step := by
  by_cases hretire : step = .retire
  · subst hretire
    have hnone : engine.admissions .retire = [] := Hub.admitted_nil engine.hub
    rw [hnone, List.append_nil]
    rfl
  · exact (moves_step engine hretire).accepted

theorem books_run (engine : Engine) (steps : List Step) :
    engine.hub.Books (engine.run steps).hub (engine.along answered steps) := by
  induction steps generalizing engine with
  | nil => exact .refl engine.hub
  | cons step steps ih => exact (books_step engine step).trans (ih _)

theorem accepted_run_eq_along (engine : Engine) (steps : List Step) :
    (engine.run steps).hub.journal.accepted =
      engine.hub.journal.accepted ++ engine.along admissions steps := by
  induction steps generalizing engine with
  | nil => exact (List.append_nil _).symm
  | cons step steps ih =>
    have hrest := ih (engine.step step)
    rw [accepted_step, List.append_assoc] at hrest
    exact hrest

-- The counters of an engine say what the queue has taken in and what the link has answered.
theorem tallies_run (engine : Engine) (steps : List Step) :
    engine.hub.counters.Tallies (engine.run steps).hub.counters (engine.along admissions steps)
      (engine.along answered steps) :=
  (books_run engine steps).tallies (accepted_run_eq_along engine steps)

end Engine

end QuadCan
