import QuadCan.Hub.Delivery

namespace QuadCan

namespace Action

-- The actions that an observer gets to, up to the panic that ends its turn.
def performed : List Action → List Action
  | [] => []
  | .panic :: _ => [.panic]
  | action :: actions => action :: performed actions

theorem performed_cons (action : Action) (actions : List Action) :
    performed (action :: actions) = action :: performed (Hub.afterAction actions action) := by
  cases action with
  | _ => rfl

end Action

-- Nothing that the read loop writes down.
def Event.isOutward : Event → Bool
  | received _ | called _ _ _ => false
  | _ => true

-- A frame comes to the observer at a place of a channel.
structure Visit where
  channel : Channel
  position : Nat
  frame : Frame
deriving DecidableEq, Repr

-- The observers that were called, in the order of the calls.
def Journal.visits : Journal → List Visit :=
  select fun
    | .called channel position frame => some ⟨channel, position, frame⟩
    | _ => none

theorem Journal.visits_cons (event : Event) (journal : Journal) :
    visits (event :: journal) = journal.visits ++ visits [event] :=
  select_append _ [event] journal

-- The calls that a delivery is still to make.
def Delivery.visits (delivery : Delivery) : List Visit :=
  delivery.waiting.map fun entry => ⟨delivery.channel, entry.2, delivery.frame⟩

namespace Hub

-- What the read loop leaves behind: the lines, the calls for them, and the errors counted.
def inflow (hub : Hub) : List Bytes × List Visit × UInt64 :=
  (hub.journal.received, hub.journal.visits, hub.counters.readErrors)

theorem inflow_log (hub : Hub) {event : Event} (h : event.isOutward = true) :
    (hub.log event).inflow = hub.inflow := by
  have hreceived : (hub.log event).journal.received =
      hub.journal.received ++ Journal.received [event] := Journal.select_append _ [event] _
  have hvisits : (hub.log event).journal.visits =
      hub.journal.visits ++ Journal.visits [event] := Journal.visits_cons event _
  rw [inflow, hreceived, hvisits]
  cases event with
  | received | called => cases h
  | _ => simp [inflow, log, Journal.received, Journal.visits, Journal.select]

theorem inflow_push (hub : Hub) (command : Command) : (hub.push command).inflow = hub.inflow := by
  unfold push
  split
  next => exact (inflow_log _ rfl).trans rfl
  next => exact inflow_log hub rfl

theorem inflow_foldl_push (hub : Hub) (commands : List Command) :
    (commands.foldl push hub).inflow = hub.inflow := by
  induction commands generalizing hub with
  | nil => rfl
  | cons command commands ih => exact (ih (hub.push command)).trans (inflow_push hub command)

theorem inflow_call (hub : Hub) (channel : Channel) (operation : Operation) :
    (hub.call channel operation).2.inflow = hub.inflow := by
  unfold call
  split
  next => exact inflow_foldl_push hub _
  next => rfl

private theorem inflow_classify (hub : Hub) (channel : Channel) (payload : Bytes) :
    (hub.classify channel payload).1.inflow = hub.inflow := by
  unfold classify
  split
  next => rfl
  next =>
    split
    next => exact inflow_log (hub.count _) rfl
    next => exact inflow_log (hub.count _) rfl

-- A line that is taken in is written down once, and no call is made yet.
theorem inflow_receive (hub : Hub) (line : Bytes) :
    (hub.receive line).1.inflow =
      (hub.journal.received ++ [line], hub.journal.visits, hub.counters.readErrors) := by
  have hnoted : ((hub.count fun counters =>
      { counters with linesReceived := counters.linesReceived + 1 }).log (.received line)).inflow =
        (hub.journal.received ++ [line], hub.journal.visits, hub.counters.readErrors) := by
    simp [inflow, log, count, Journal.received, Journal.visits, Journal.select]
  unfold receive
  split
  next => exact hnoted
  next => exact (inflow_classify _ _ _).trans hnoted

theorem inflow_act (hub : Hub) (channel : Channel) (frame : Frame) (action : Action) :
    (hub.act channel frame action).inflow = hub.inflow := by
  cases action with
  | send => exact inflow_push hub _
  | note => exact inflow_log hub rfl
  | panic => exact inflow_log hub rfl
  | _ => rfl

-- A delivery adds calls and nothing else.
theorem inflow_advance (hub : Hub) (delivery : Delivery) :
    (hub.advance delivery).1.journal.received = hub.journal.received ∧
      (hub.advance delivery).1.counters.readErrors = hub.counters.readErrors := by
  unfold advance
  split
  next action _ _ =>
    have hinflow := inflow_act hub delivery.channel delivery.frame action
    exact ⟨congrArg Prod.fst hinflow, congrArg (·.2.2) hinflow⟩
  next => exact ⟨(Journal.select_append _ [_] _).trans (List.append_nil _), rfl⟩
  next => exact ⟨rfl, rfl⟩

-- A call that is made is no longer to be made, whatever the observers do.
theorem visits_advance (hub : Hub) (delivery : Delivery) :
    (hub.advance delivery).1.journal.visits ++ (hub.advance delivery).2.elim [] Delivery.visits =
      hub.journal.visits ++ delivery.visits := by
  obtain ⟨channel, frame, actions, waiting⟩ := delivery
  match actions, waiting with
  | action :: _, _ =>
    have hvisits : (hub.act channel frame action).journal.visits = hub.journal.visits :=
      congrArg (·.2.1) (inflow_act hub channel frame action)
    exact congrArg (· ++ _) hvisits
  | [], (_, position) :: waiting =>
    have hcalled : (hub.log (.called channel position frame)).journal.visits =
        hub.journal.visits ++ [⟨channel, position, frame⟩] := Journal.visits_cons _ _
    simp only [advance, Option.elim_some, Delivery.visits, hcalled, List.append_assoc]
    rfl
  | [], [] => rfl

-- An observer has its turn: it is called and acts until it panics or is done.
def consult (channel : Channel) (frame : Frame) (hub : Hub) (entry : Observer × Nat) : Hub :=
  (Action.performed (entry.1 frame)).foldl (act · channel frame)
    (hub.log (.called channel entry.2 frame))

-- A delivery is one turn after the other of those that wait, in their order. What one of them
-- does, a panic included, takes no turn from the others and gives none to anybody else.
theorem finish_eq (hub : Hub) (delivery : Delivery) :
    hub.finish delivery =
      delivery.waiting.foldl (consult delivery.channel delivery.frame)
        ((Action.performed delivery.actions).foldl
          (act · delivery.channel delivery.frame) hub) := by
  fun_induction finish hub delivery with
  | case1 hub delivery next h =>
    obtain ⟨channel, frame, actions, waiting⟩ := delivery
    match actions, waiting with
    | _ :: _, _ => cases h
    | [], _ :: _ => cases h
    | [], [] =>
      cases h
      rfl
  | case2 hub delivery next rest h ih =>
    obtain ⟨channel, frame, actions, waiting⟩ := delivery
    match actions, waiting with
    | action :: actions, _ =>
      cases h
      rw [ih, Action.performed_cons, List.foldl_cons]
    | [], (observer, position) :: waiting =>
      cases h
      exact ih
    | [], [] => cases h

theorem visits_finish (hub : Hub) (delivery : Delivery) :
    (hub.finish delivery).journal.visits = hub.journal.visits ++ delivery.visits := by
  fun_induction finish hub delivery with
  | case1 hub delivery next h =>
    have hvisits := visits_advance hub delivery
    rw [h] at hvisits
    exact (List.append_nil _).symm.trans hvisits
  | case2 hub delivery next rest h ih =>
    have hvisits := visits_advance hub delivery
    rw [h] at hvisits
    exact ih.trans hvisits

end Hub

end QuadCan
