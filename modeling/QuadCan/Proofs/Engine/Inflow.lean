import QuadCan.Proofs.Engine.Steps
import QuadCan.Proofs.Hub.Roster

namespace QuadCan

-- An outcome that the read loop gets out of the link, what the engine is at that time, and who
-- is registered then.
structure Fetch where
  outcome : ReadOutcome
  isOpen : Bool
  roster : Roster

namespace Fetch

def line? (fetch : Fetch) : Option Bytes :=
  match fetch.outcome with
  | .line line => some line
  | _ => none

-- The calls that its line asks for.
def visits (fetch : Fetch) : List Visit :=
  fetch.line?.elim [] fun line => fetch.roster.visits (.line line)

-- An error of an open link, other than that nothing came.
def isError (fetch : Fetch) : Bool :=
  match fetch.outcome with
  | .failed error => fetch.isOpen && !error.kind.isIdle
  | _ => false

end Fetch

-- The link does not crash under the read loop, and the loop is not left to itself.
def Step.isPlain : Step → Bool
  | .read .crashed => false
  | .detach => false
  | _ => true

namespace Engine

def fetched (engine : Engine) : Step → List Fetch
  | .read outcome =>
      match engine.reader with
      | .waiting => [⟨outcome, engine.isOpen, engine.hub.roster⟩]
      | _ => []
  | _ => []

-- What a step is to the read loop.
inductive Hears (before : Engine) : Engine → List Fetch → Prop where
  -- it is none of its business, but it may find the link closed later
  | aside {after : Engine} (hreader : after.reader = before.reader)
      (hphase : after.phase = .running → before.phase = .running)
      (hinflow : after.hub.inflow = before.hub.inflow) : Hears before after []
  | begins {after : Engine} (hended : before.reader = .ended) (hreader : after.reader = .idle)
      (hphase : after.phase = .running) (hhub : after.hub = before.hub.log .connected) :
      Hears before after []
  | polls (hreader : before.reader = .idle) (hphase : before.phase = .running) :
      Hears before { before with reader := .waiting } []
  | quits (hreader : before.reader = .idle) (hphase : before.phase ≠ .running) :
      Hears before { before with reader := .ended } []
  -- it gets a line, and it does so even from a link that is closed in the meantime
  | takes (line : Bytes) (hreader : before.reader = .waiting) :
      Hears before (before.proceed (before.hub.receive line))
        [⟨.line line, before.isOpen, before.hub.roster⟩]
  -- it gets an error, which ends it only where the link is closed
  | gives (error : StreamError) (hreader : before.reader = .waiting)
      (hphase : before.phase ≠ .running) :
      Hears before { before with reader := .ended }
        [⟨.failed error, before.isOpen, before.hub.roster⟩]
  | idles (error : StreamError) (hreader : before.reader = .waiting)
      (hphase : before.phase = .running) (hidle : error.kind.isIdle = true) :
      Hears before { before with reader := .idle }
        [⟨.failed error, before.isOpen, before.hub.roster⟩]
  | fails (error : StreamError) (hreader : before.reader = .waiting)
      (hphase : before.phase = .running) (hidle : error.kind.isIdle = false) :
      Hears before
        (({ before with reader := .idle }.count fun counters =>
          { counters with readErrors := counters.readErrors + 1 }).log (.readFailed error))
        [⟨.failed error, before.isOpen, before.hub.roster⟩]
  -- it is in the middle of a delivery
  | advances {delivery : Delivery} (hreader : before.reader = .delivering delivery) :
      Hears before (before.proceed (before.hub.advance delivery)) []
  | closes {delivery : Delivery} {actions : List Action} {phase : Phase}
      (hreader : before.reader = .delivering delivery)
      (hphase : phase = .running → before.phase = .running) :
      Hears before
        { before with
          phase := phase, reader := .delivering { delivery with actions := actions } } []

theorem hears_refl (engine : Engine) : engine.Hears engine [] :=
  .aside rfl id rfl

variable {engine before after : Engine} {step : Step}

theorem fetched_of_stuck (hstuck : engine.Stuck step) : engine.fetched step = [] := by
  cases step with
  | read =>
    cases hreader : engine.reader with
    | waiting => exact absurd hreader hstuck
    | _ => rw [fetched, hreader]
  | _ => rfl

private theorem fetched_of_waiting (hreader : engine.reader = .waiting) (outcome : ReadOutcome) :
    engine.fetched (.read outcome) = [⟨outcome, engine.isOpen, engine.hub.roster⟩] := by
  rw [fetched, hreader]

private theorem hears_abandon (engine : Engine) (command : Option Command) :
    engine.Hears (engine.abandon command) [] := by
  cases command with
  | none => exact .aside rfl id rfl
  | some command => exact .aside rfl id (Hub.inflow_log _ rfl)

private theorem hears_hand (engine : Engine) (pending batch : List Command)
    (carry : Option Command) :
    engine.Hears ({ engine with hub := { engine.hub with pending := pending } }.hand batch carry)
      [] :=
  .aside rfl id (Hub.inflow_log { engine.hub with pending := pending } rfl)

private theorem hears_crashed (engine : Engine) (batch : List Command) (carry : Option Command) :
    engine.Hears ((engine.log (.crashed batch)).abandon carry) [] := by
  have hcrashed : (engine.log (.crashed batch)).hub.inflow = engine.hub.inflow :=
    Hub.inflow_log _ rfl
  cases carry with
  | none => exact .aside rfl id hcrashed
  | some command => exact .aside rfl id ((Hub.inflow_log _ rfl).trans hcrashed)

theorem Does.hears (h : before.Does step after) (hstep : step.isPlain = true) :
    before.Hears after (before.fetched step) := by
  cases h with
  | stuck hstuck =>
    rw [fetched_of_stuck hstuck]
    exact hears_refl before
  | call channel operation => exact .aside rfl id (Hub.inflow_call before.hub channel operation)
  | push command => exact .aside rfl id (Hub.inflow_push before.hub command)
  | begin hvacant => exact .begins hvacant.reader rfl rfl rfl
  | leave | discard => exact hears_abandon before _
  | overflow => exact hears_hand before _ _ _
  | ship => exact hears_hand before before.hub.pending _ _
  | written | lost => exact .aside rfl id (Hub.inflow_log (before.hub.count _) rfl)
  | crashed => exact hears_crashed before _ _
  | poll hphase hreader => exact .polls hreader hphase
  | quit hphase hreader => exact .quits hreader hphase
  | line line hreader =>
    rw [fetched_of_waiting hreader]
    exact .takes line hreader
  | giveUp error hphase hreader =>
    rw [fetched_of_waiting hreader]
    exact .gives error hreader hphase
  | retry error hphase hreader hidle =>
    rw [fetched_of_waiting hreader]
    exact .idles error hreader hphase hidle
  | failed error hphase hreader hidle =>
    rw [fetched_of_waiting hreader]
    exact .fails error hreader hphase hidle
  | close hphase hreader => exact .closes hreader nofun
  | pass _ _ hreader => exact .closes hreader id
  | advance _ hreader => exact .advances hreader
  | die | detach => cases hstep
  | refuse => exact .aside rfl id (Hub.inflow_log _ rfl)
  | release | letGo => exact .aside rfl nofun (Hub.inflow_log _ rfl)
  | shut | rejoin | goOn => exact .aside rfl nofun rfl
  | retire | register | wait | retake | receive | wake | confirm | join => exact .aside rfl id rfl

theorem hears_step (engine : Engine) {step : Step} (hstep : step.isPlain = true) :
    engine.Hears (engine.step step) (engine.fetched step) :=
  (does_step engine step).hears hstep

end Engine

end QuadCan
