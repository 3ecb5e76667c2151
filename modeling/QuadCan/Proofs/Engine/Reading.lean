import QuadCan.Proofs.Engine.Inflow
import QuadCan.Proofs.Engine.Lifecycle
import QuadCan.Proofs.Engine.Runs

namespace QuadCan

-- The calls that the read loop is still to make.
def Reader.visits : Reader → List Visit
  | .delivering delivery => delivery.visits
  | _ => []

-- How many more outcomes it takes from a closed link.
def Reader.due : Reader → Nat
  | .waiting => 1
  | _ => 0

namespace Engine

variable {engine before middle after : Engine} {fetches others : List Fetch}

-- What becomes of the outcomes that the read loop gets. Lines are taken in, all who were
-- registered have been or are still to be called for the frames in them, and errors are counted.
structure Gathers (before after : Engine) (fetches : List Fetch) : Prop where
  received : after.hub.journal.received =
    before.hub.journal.received ++ fetches.filterMap Fetch.line?
  visits : after.hub.journal.visits ++ after.reader.visits =
    before.hub.journal.visits ++ before.reader.visits ++ fetches.flatMap Fetch.visits
  readErrors : after.hub.counters.readErrors =
    before.hub.counters.readErrors + UInt64.ofNat (fetches.countP Fetch.isError)

theorem gathers_refl (engine : Engine) : engine.Gathers engine [] :=
  ⟨(List.append_nil _).symm, (List.append_nil _).symm, (UInt64.add_zero _).symm⟩

theorem Gathers.trans (h : before.Gathers middle fetches) (h' : middle.Gathers after others) :
    before.Gathers after (fetches ++ others) where
  received := by rw [h'.received, h.received, List.filterMap_append, List.append_assoc]
  visits := by rw [h'.visits, h.visits, List.flatMap_append, List.append_assoc]
  readErrors := by
    rw [h'.readErrors, h.readErrors, List.countP_append, UInt64.ofNat_add, UInt64.add_assoc]

private theorem gathers_of_inflow (hinflow : after.hub.inflow = before.hub.inflow)
    (hvisits : after.reader.visits = before.reader.visits) : before.Gathers after [] where
  received := (congrArg Prod.fst hinflow).trans (List.append_nil _).symm
  visits := by
    have hmade : after.hub.journal.visits = before.hub.journal.visits :=
      congrArg (·.2.1) hinflow
    rw [hmade, hvisits]
    exact (List.append_nil _).symm
  readErrors := (congrArg (·.2.2) hinflow).trans (UInt64.add_zero _).symm

private theorem visits_proceed (engine : Engine) (result : Hub × Option Delivery) :
    (engine.proceed result).reader.visits = result.2.elim [] Delivery.visits := by
  obtain ⟨hub, delivery⟩ := result
  cases delivery with
  | _ => rfl

private theorem gathers_receive (engine : Engine) (line : Bytes)
    (hreader : engine.reader = .waiting) :
    engine.Gathers (engine.proceed (engine.hub.receive line))
      [⟨.line line, engine.isOpen, engine.hub.roster⟩] where
  received := congrArg Prod.fst (Hub.inflow_receive engine.hub line)
  visits := by
    have hmade : (engine.proceed (engine.hub.receive line)).hub.journal.visits =
        engine.hub.journal.visits := Hub.visits_receive engine.hub line
    have hnone : engine.reader.visits = [] := by rw [hreader]; rfl
    rw [hmade, visits_proceed, (Hub.receive_eq engine.hub line).1, hnone, List.append_nil,
      List.flatMap_singleton]
    rfl
  readErrors := (congrArg (·.2.2) (Hub.inflow_receive engine.hub line)).trans
    (UInt64.add_zero _).symm

private theorem gathers_advance (engine : Engine) {delivery : Delivery}
    (hreader : engine.reader = .delivering delivery) :
    engine.Gathers (engine.proceed (engine.hub.advance delivery)) [] where
  received := (Hub.inflow_advance engine.hub delivery).1.trans (List.append_nil _).symm
  visits := by
    have hwaiting : engine.reader.visits = delivery.visits := by rw [hreader]; rfl
    rw [visits_proceed, hwaiting]
    exact (Hub.visits_advance engine.hub delivery).trans (List.append_nil _).symm
  readErrors := (Hub.inflow_advance engine.hub delivery).2.trans (UInt64.add_zero _).symm

private theorem gathers_failed {error : StreamError} {count : Nat}
    (hcount : [Fetch.mk (.failed error) before.isOpen before.hub.roster].countP Fetch.isError =
      count)
    (hreader : before.reader = .waiting) (hended : after.reader.visits = [])
    (hinflow : after.hub.inflow = (before.hub.journal.received, before.hub.journal.visits,
      before.hub.counters.readErrors + UInt64.ofNat count)) :
    before.Gathers after [⟨.failed error, before.isOpen, before.hub.roster⟩] where
  received := (congrArg Prod.fst hinflow).trans (List.append_nil _).symm
  visits := by
    have hmade : after.hub.journal.visits = before.hub.journal.visits :=
      congrArg (·.2.1) hinflow
    have hnone : before.reader.visits = [] := by rw [hreader]; rfl
    rw [hmade, hended, hnone]
    exact (List.append_nil _).symm
  readErrors := by
    rw [hcount]
    exact congrArg (·.2.2) hinflow

theorem Hears.gathers (h : before.Hears after fetches) : before.Gathers after fetches := by
  cases h with
  | aside hreader _ hinflow => exact gathers_of_inflow hinflow (congrArg Reader.visits hreader)
  | begins hended hreader _ hhub =>
    have hinflow : after.hub.inflow = before.hub.inflow := by
      rw [hhub]
      exact Hub.inflow_log _ rfl
    exact gathers_of_inflow hinflow (by rw [hreader, hended]; rfl)
  | polls hreader => exact gathers_of_inflow rfl (by rw [hreader]; rfl)
  | quits hreader => exact gathers_of_inflow rfl (by rw [hreader]; rfl)
  | takes line hreader => exact gathers_receive before line hreader
  | gives error hreader hphase =>
    have hcount : [Fetch.mk (.failed error) before.isOpen before.hub.roster].countP
        Fetch.isError = 0 := by simp [Fetch.isError, isOpen, hphase]
    exact gathers_failed hcount hreader rfl (by simp [Hub.inflow])
  | idles error hreader hphase hidle =>
    have hcount : [Fetch.mk (.failed error) before.isOpen before.hub.roster].countP
        Fetch.isError = 0 := by simp [Fetch.isError, hidle]
    exact gathers_failed hcount hreader rfl (by simp [Hub.inflow])
  | fails error hreader hphase hidle =>
    have hcount : [Fetch.mk (.failed error) before.isOpen before.hub.roster].countP
        Fetch.isError = 1 := by simp [Fetch.isError, isOpen, hphase, hidle]
    exact gathers_failed hcount hreader rfl (Hub.inflow_log (before.hub.count _) rfl)
  | advances hreader => exact gathers_advance before hreader
  | closes hreader => exact gathers_of_inflow rfl (by rw [hreader]; rfl)

theorem gathers_run (engine : Engine) {steps : List Step}
    (hsteps : ∀ step ∈ steps, step.isPlain = true) :
    engine.Gathers (engine.run steps) (engine.along fetched steps) := by
  induction steps generalizing engine with
  | nil => exact gathers_refl engine
  | cons step steps ih =>
    obtain ⟨hstep, hrest⟩ := List.forall_mem_cons.mp hsteps
    exact (hears_step engine hstep).gathers.trans (ih _ hrest)

-- While the link is open, so is its read loop.
def Alive (engine : Engine) : Prop :=
  engine.phase = .running → engine.reader ≠ .ended

private theorem proceed_ne_ended (engine : Engine) (result : Hub × Option Delivery) :
    (engine.proceed result).reader ≠ .ended := by
  obtain ⟨hub, delivery⟩ := result
  cases delivery with
  | _ => exact nofun

theorem Hears.alive (h : before.Hears after fetches) (halive : before.Alive) : after.Alive := by
  intro hrunning
  cases h with
  | aside hreader hphase _ =>
    rw [hreader]
    exact halive (hphase hrunning)
  | begins _ hreader _ _ =>
    rw [hreader]
    exact nofun
  | quits _ hphase => exact absurd hrunning hphase
  | gives _ _ hphase => exact absurd hrunning hphase
  | takes => exact proceed_ne_ended before _
  | advances => exact proceed_ne_ended before _
  | _ => exact nofun

theorem alive_run (config : Config) {steps : List Step}
    (hsteps : ∀ step ∈ steps, step.isPlain = true) : ((fresh config).run steps).Alive :=
  holds_run (fun engine step hstep h => (hears_step engine hstep).alive h)
    (fun h => by cases h) hsteps

private theorem due_proceed (engine : Engine) (result : Hub × Option Delivery) :
    (engine.proceed result).reader.due = 0 := by
  obtain ⟨hub, delivery⟩ := result
  cases delivery with
  | _ => rfl

-- The read loop of a closed link gets one more outcome if it waits for it, until the link opens.
theorem Hears.due (h : before.Hears after fetches) (hclosed : before.phase ≠ .running) :
    after.hub.journal = .connected :: before.hub.journal ∨
      after.phase ≠ .running ∧ fetches.length + after.reader.due ≤ before.reader.due := by
  cases h with
  | aside hreader hphase _ =>
    refine Or.inr ⟨fun h => hclosed (hphase h), ?_⟩
    rw [hreader]
    exact Nat.le_of_eq (Nat.zero_add _)
  | begins _ _ _ hhub => exact Or.inl (congrArg Hub.journal hhub)
  | polls _ hphase => exact absurd hphase hclosed
  | idles _ _ hphase => exact absurd hphase hclosed
  | fails _ _ hphase => exact absurd hphase hclosed
  | quits => exact Or.inr ⟨hclosed, Nat.zero_le _⟩
  | takes _ hreader =>
    refine Or.inr ⟨hclosed, ?_⟩
    rw [hreader, due_proceed]
    exact Nat.le_refl 1
  | gives _ hreader =>
    refine Or.inr ⟨hclosed, ?_⟩
    rw [hreader]
    exact Nat.le_refl 1
  | advances =>
    refine Or.inr ⟨hclosed, ?_⟩
    rw [due_proceed]
    exact Nat.zero_le _
  | closes _ hphase => exact Or.inr ⟨fun h => hclosed (hphase h), Nat.zero_le _⟩

theorem length_along_fetched_le (hclosed : engine.phase ≠ .running) {later : List Step}
    (hlater : ∀ step ∈ later, step.isPlain = true)
    (hopenings : (engine.run later).hub.journal.openings = engine.hub.journal.openings) :
    (engine.along fetched later).length ≤ engine.reader.due := by
  induction later generalizing engine with
  | nil => exact Nat.zero_le _
  | cons step later ih =>
    obtain ⟨hstep, hrest⟩ := List.forall_mem_cons.mp hlater
    have hrun : engine.run (step :: later) = (engine.step step).run later := rfl
    have hfirst := openings_le_run engine [step]
    have hmore := openings_le_run (engine.step step) later
    rw [hrun] at hopenings
    rw [hopenings] at hmore
    rcases (hears_step engine hstep).due hclosed with hopened | ⟨hstill, hdue⟩
    · rw [hopened, Journal.openings_cons] at hmore
      exact absurd hmore (Nat.not_le_of_gt (Nat.lt_add_of_pos_left Nat.one_pos))
    · have hsame := Nat.le_antisymm hmore hfirst
      have hlength := ih hstill hrest (hopenings.trans hsame.symm)
      rw [along, List.length_append]
      exact Nat.le_trans (Nat.add_le_add_left hlength _) hdue

end Engine

end QuadCan
