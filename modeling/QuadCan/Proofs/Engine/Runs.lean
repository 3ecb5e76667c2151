import QuadCan.Engine.Basic

namespace QuadCan.Engine

-- The answers of the steps of a run to a question, each asked in the state that it finds.
def along (question : Engine → Step → List α) (engine : Engine) : List Step → List α
  | [] => []
  | step :: steps => question engine step ++ (engine.step step).along question steps

variable {allowed : Step → Prop} {steps : List Step}

-- What every step keeps is kept by a run.
theorem holds_run {Holds : Engine → Prop}
    (hstep : ∀ engine step, allowed step → Holds engine → Holds (engine.step step))
    {engine : Engine} (hengine : Holds engine) (hsteps : ∀ step ∈ steps, allowed step) :
    Holds (engine.run steps) := by
  induction steps generalizing engine with
  | nil => exact hengine
  | cons step steps ih =>
    obtain ⟨hallowed, hrest⟩ := List.forall_mem_cons.mp hsteps
    exact ih (hstep engine step hallowed hengine) hrest

theorem along_map {question : Engine → Step → List α} {other : Engine → Step → List β}
    {change : α → β} (engine : Engine)
    (hstep : ∀ engine step, allowed step →
      other engine step = (question engine step).map change)
    (hsteps : ∀ step ∈ steps, allowed step) :
    engine.along other steps = (engine.along question steps).map change := by
  induction steps generalizing engine with
  | nil => rfl
  | cons step steps ih =>
    obtain ⟨hallowed, hrest⟩ := List.forall_mem_cons.mp hsteps
    rw [along, along, hstep engine step hallowed, ih _ hrest, List.map_append]

-- What holds of every answer in a run, from what holds of those to each step.
theorem forall_mem_along {question : Engine → Step → List α} {Holds : α → Prop}
    {Allows : Step → Prop}
    (hstep : ∀ engine step, (∀ answer ∈ question engine step, Holds answer) ↔ Allows step)
    (engine : Engine) (steps : List Step) :
    (∀ answer ∈ engine.along question steps, Holds answer) ↔
      ∀ step ∈ steps, Allows step := by
  induction steps generalizing engine with
  | nil => exact iff_of_true (fun _ hm => absurd hm List.not_mem_nil) (by simp)
  | cons step steps ih =>
    rw [along, List.forall_mem_append, hstep, ih, List.forall_mem_cons]

end QuadCan.Engine
