import QuadCan.Hub.Delivery

namespace QuadCan

namespace Event

-- An event that callers and observers bring about, whether there is a link or not.
def isLocal : Event → Bool
  | accepted _ | refused _ | called _ _ _ | panicked _ _ | noted _ _ | unreachable _ => true
  | _ => false

-- The link opens or is let go.
def isTurn : Event → Bool
  | connected | disconnected => true
  | _ => false

theorem isTurn_of_isLocal {event : Event} (h : event.isLocal = true) : event.isTurn = false := by
  cases event with
  | connected | disconnected => cases h
  | _ => rfl

end Event

namespace Journal

-- A journal goes on with events of one sort only.
def Gains (sort : Event → Prop) (before after : Journal) : Prop :=
  ∃ events : Journal, after = events ++ before ∧ ∀ event ∈ events, sort event

variable {sort : Event → Prop} {first second third : Journal}

theorem Gains.refl (journal : Journal) : Gains sort journal journal :=
  ⟨[], rfl, fun _ h => absurd h List.not_mem_nil⟩

theorem Gains.cons {event : Event} (h : Gains sort first second) (hevent : sort event) :
    Gains sort first (event :: second) := by
  obtain ⟨events, rfl, hevents⟩ := h
  exact ⟨event :: events, rfl, List.forall_mem_cons.mpr ⟨hevent, hevents⟩⟩

theorem gains_one {event : Event} (journal : Journal) (hevent : sort event) :
    Gains sort journal (event :: journal) :=
  (Gains.refl journal).cons hevent

theorem Gains.trans (h : Gains sort first second) (h' : Gains sort second third) :
    Gains sort first third := by
  obtain ⟨earlier, rfl, hearlier⟩ := h
  obtain ⟨later, rfl, hlater⟩ := h'
  exact ⟨later ++ earlier, (List.append_assoc _ _ _).symm,
    List.forall_mem_append.mpr ⟨hlater, hearlier⟩⟩

theorem Gains.mono {other : Event → Prop} (h : Gains sort first second)
    (hother : ∀ event, sort event → other event) : Gains other first second := by
  obtain ⟨events, rfl, hevents⟩ := h
  exact ⟨events, rfl, fun event hm => hother event (hevents event hm)⟩

-- A question that none of the new events answers is answered as before.
theorem Gains.select_eq {question : Event → Option α} (h : Gains sort first second)
    (hquestion : ∀ event, sort event → question event = none) :
    select question second = select question first := by
  obtain ⟨events, rfl, hevents⟩ := h
  have hnone : select question events = [] :=
    List.filterMap_eq_nil_iff.mpr fun event hm =>
      hquestion event (hevents event (List.mem_reverse.mp hm))
  rw [select_append, hnone, List.append_nil]

-- The events of the link, in the order in which they happened.
def turns : Journal → List Event :=
  select fun event => if event.isTurn then some event else none

theorem turns_cons (event : Event) (journal : Journal) :
    turns (event :: journal) = journal.turns ++ turns [event] :=
  select_append _ [event] journal

theorem count_connected_turns (journal : Journal) :
    journal.turns.count .connected = journal.openings := by
  induction journal with
  | nil => rfl
  | cons event journal ih =>
    rw [turns_cons, List.count_append, ih, openings, openings, List.countP_cons]
    cases event with
    | _ => rfl

theorem count_disconnected_turns (journal : Journal) :
    journal.turns.count .disconnected = journal.closings := by
  induction journal with
  | nil => rfl
  | cons event journal ih =>
    rw [turns_cons, List.count_append, ih, closings, closings, List.countP_cons]
    cases event with
    | _ => rfl

theorem Gains.turns_eq (h : Gains (fun event => event.isTurn = false) first second) :
    second.turns = first.turns :=
  h.select_eq fun event hevent => by rw [hevent]; rfl

end Journal

namespace Hub

-- A change to a hub that callers and observers can bring about.
def GainsLocal (before after : Hub) : Prop :=
  Journal.Gains (fun event => event.isLocal = true) before.journal after.journal

theorem gainsLocal_push (hub : Hub) (command : Command) : hub.GainsLocal (hub.push command) := by
  unfold push
  split
  next => exact Journal.gains_one hub.journal rfl
  next => exact Journal.gains_one hub.journal rfl

theorem gainsLocal_foldl_push (hub : Hub) (commands : List Command) :
    hub.GainsLocal (commands.foldl push hub) := by
  induction commands generalizing hub with
  | nil => exact .refl _
  | cons command commands ih => exact (gainsLocal_push hub command).trans (ih _)

theorem gainsLocal_call (hub : Hub) (channel : Channel) (operation : Operation) :
    hub.GainsLocal (hub.call channel operation).2 := by
  unfold call
  split
  next => exact gainsLocal_foldl_push hub _
  next => exact .refl _

theorem gainsLocal_advance (hub : Hub) (delivery : Delivery) :
    hub.GainsLocal (hub.advance delivery).1 := by
  obtain ⟨channel, frame, actions, waiting⟩ := delivery
  match actions, waiting with
  | [], [] => exact .refl _
  | [], _ :: _ => exact Journal.gains_one hub.journal rfl
  | action :: actions, _ =>
    cases action with
    | note => exact Journal.gains_one hub.journal rfl
    | panic => exact Journal.gains_one hub.journal rfl
    | send => exact gainsLocal_push hub _
    | _ => exact .refl _

-- A line that comes in leaves the link as it is.
theorem gains_receive (hub : Hub) (line : Bytes) :
    Journal.Gains (fun event => event.isTurn = false) hub.journal (hub.receive line).1.journal := by
  have hline : Journal.Gains (fun event => event.isTurn = false) hub.journal
      (.received line :: hub.journal) := Journal.gains_one _ rfl
  unfold receive
  split
  next => exact hline
  next =>
    unfold classify
    split
    next => exact hline
    next =>
      split
      next => exact hline.cons rfl
      next => exact hline.cons rfl

end Hub

end QuadCan
