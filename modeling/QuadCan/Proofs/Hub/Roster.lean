import QuadCan.Proofs.Hub.Mail
import QuadCan.Proofs.Hub.Visits

namespace QuadCan

-- What can happen at a hub: a line comes, or someone takes an interest in a channel.
inductive Input where
  | line (line : Bytes)
  | register (channel : Channel) (observer : Observer)
  | subscribe (channel : Channel)

namespace Hub

def process (hub : Hub) : Input → Hub
  | .line line => hub.dispatch line
  | .register channel observer => hub.register channel observer
  | .subscribe channel => (hub.subscribe channel).2

def processAll (hub : Hub) (inputs : List Input) : Hub :=
  inputs.foldl process hub

end Hub

-- Who is registered on the channels, in the order of registration, and the next free mailbox.
structure Roster where
  observers : Channel → List Observer
  mailboxes : Nat

def Hub.roster (hub : Hub) : Roster :=
  ⟨hub.observers, hub.mailboxes.length⟩

def Action.recruit? : Action → Option Observer
  | .register observer => some observer
  | _ => none

-- The observers that others bring in as a frame comes to them.
def Delivery.recruits (delivery : Delivery) : List Observer :=
  delivery.waiting.flatMap fun entry =>
    (Action.performed (entry.1 delivery.frame)).filterMap Action.recruit?

namespace Roster

-- New observers stand behind those that a channel has.
def enlist (roster : Roster) (channel : Channel) (recruits : List Observer) : Roster :=
  { roster with observers := fun other =>
      if other = channel then roster.observers other ++ recruits else roster.observers other }

-- A frame in a line goes to all who are registered on its channel when it comes.
def delivery? (roster : Roster) (line : Bytes) : Option Delivery :=
  (Frame.parse? (route line).2).map fun frame =>
    ⟨(route line).1, frame, [], (roster.observers (route line).1).zipIdx⟩

def next (roster : Roster) : Input → Roster
  | .line line =>
      match roster.delivery? line with
      | some delivery => roster.enlist delivery.channel delivery.recruits
      | none => roster
  | .register channel observer => roster.enlist channel [observer]
  | .subscribe channel =>
      { roster with mailboxes := roster.mailboxes + 1 }.enlist channel [.forward roster.mailboxes]

def nextAll (roster : Roster) (inputs : List Input) : Roster :=
  inputs.foldl next roster

-- The calls for a line, one for each of these.
def visits (roster : Roster) : Input → List Visit
  | .line line => (roster.delivery? line).elim [] Delivery.visits
  | _ => []

def visitsAll (roster : Roster) : List Input → List Visit
  | [] => []
  | input :: inputs => roster.visits input ++ (roster.next input).visitsAll inputs

@[simp] theorem enlist_nil (roster : Roster) (channel : Channel) :
    roster.enlist channel [] = roster := by
  simp [enlist]

@[simp] theorem enlist_enlist (roster : Roster) (channel : Channel)
    (recruits others : List Observer) :
    (roster.enlist channel recruits).enlist channel others =
      roster.enlist channel (recruits ++ others) := by
  simp only [enlist, mk.injEq, and_true]
  funext other
  split
  next => exact List.append_assoc _ _ _
  next => rfl

theorem prefix_enlist (roster : Roster) (channel : Channel) (recruits : List Observer)
    (other : Channel) :
    roster.observers other <+: (roster.enlist channel recruits).observers other := by
  unfold enlist
  dsimp only
  split
  next => exact List.prefix_append _ _
  next => exact List.prefix_rfl

-- An observer keeps its place.
theorem prefix_next (roster : Roster) (input : Input) (channel : Channel) :
    roster.observers channel <+: (roster.next input).observers channel := by
  cases input with
  | line line =>
    unfold next
    dsimp only
    split
    next => exact prefix_enlist _ _ _ _
    next => exact List.prefix_rfl
  | register => exact prefix_enlist _ _ _ _
  | subscribe => exact prefix_enlist { roster with mailboxes := roster.mailboxes + 1 } _ _ _

theorem prefix_nextAll (roster : Roster) (inputs : List Input) (channel : Channel) :
    roster.observers channel <+: (roster.nextAll inputs).observers channel := by
  induction inputs generalizing roster with
  | nil => exact List.prefix_rfl
  | cons input inputs ih => exact (prefix_next roster input channel).trans (ih _)

end Roster

namespace Hub

theorem roster_act (hub : Hub) (channel : Channel) (frame : Frame) (action : Action) :
    (hub.act channel frame action).roster =
      hub.roster.enlist channel action.recruit?.toList := by
  cases action with
  | register => rfl
  | send => simp [act, roster, observers_push, mailboxes_push, Action.recruit?]
  | forward => simp [act, roster, Action.recruit?]
  | _ => exact (Roster.enlist_nil _ _).symm

theorem roster_foldl_act (hub : Hub) (channel : Channel) (frame : Frame) (actions : List Action) :
    (actions.foldl (act · channel frame) hub).roster =
      hub.roster.enlist channel (actions.filterMap Action.recruit?) := by
  induction actions generalizing hub with
  | nil => exact (Roster.enlist_nil _ _).symm
  | cons action actions ih =>
    rw [List.foldl_cons, ih, roster_act, Roster.enlist_enlist, List.filterMap_cons]
    cases action.recruit? with
    | _ => rfl

-- A delivery brings in the recruits of all that wait.
theorem roster_finish (hub : Hub) (delivery : Delivery) (h : delivery.actions = []) :
    (hub.finish delivery).roster = hub.roster.enlist delivery.channel delivery.recruits := by
  obtain ⟨channel, frame, actions, waiting⟩ := delivery
  subst h
  rw [finish_eq, Delivery.recruits]
  dsimp only [Action.performed, List.foldl_nil]
  induction waiting generalizing hub with
  | nil => exact (Roster.enlist_nil _ _).symm
  | cons entry waiting ih =>
    rw [List.foldl_cons, ih, consult, roster_foldl_act, List.flatMap_cons]
    exact Roster.enlist_enlist _ _ _ _

private theorem classify_eq (hub : Hub) (channel : Channel) (payload : Bytes) :
    (hub.classify channel payload).2 = (Frame.parse? payload).map (fun frame =>
        ⟨channel, frame, [], (hub.observers channel).zipIdx⟩) ∧
      (hub.classify channel payload).1.roster = hub.roster := by
  unfold classify Frame.parse?
  cases Frame.parse payload with
  | ok frame => exact ⟨rfl, rfl⟩
  | error cause =>
    dsimp only
    split
    next => exact ⟨rfl, rfl⟩
    next => exact ⟨rfl, rfl⟩

-- Taking in a line begins the delivery of its frame.
theorem receive_eq (hub : Hub) (line : Bytes) :
    (hub.receive line).2 = hub.roster.delivery? line ∧
      (hub.receive line).1.roster = hub.roster := by
  cases line with
  | nil => exact ⟨rfl, rfl⟩
  | cons byte line => exact classify_eq _ (route (byte :: line)).1 (route (byte :: line)).2

theorem visits_receive (hub : Hub) (line : Bytes) :
    (hub.receive line).1.journal.visits = hub.journal.visits :=
  congrArg (·.2.1) (inflow_receive hub line)

-- A line through all its observers: taken in, and then one turn after the other.
theorem dispatch_eq (hub : Hub) (line : Bytes) :
    hub.dispatch line = (hub.roster.delivery? line).elim (hub.receive line).1 fun delivery =>
      delivery.waiting.foldl (consult delivery.channel delivery.frame) (hub.receive line).1 := by
  have hdelivery := (receive_eq hub line).1
  unfold dispatch
  generalize hub.receive line = result at hdelivery ⊢
  obtain ⟨next, delivery⟩ := result
  dsimp only at hdelivery
  subst hdelivery
  unfold Roster.delivery? complete
  cases Frame.parse? (route line).2 with
  | none => rfl
  | some frame => exact finish_eq next _

private theorem actions_delivery? {roster : Roster} {line : Bytes} {delivery : Delivery}
    (h : roster.delivery? line = some delivery) : delivery.actions = [] := by
  obtain ⟨frame, -, rfl⟩ := Option.map_eq_some_iff.mp h
  rfl

theorem roster_process (hub : Hub) (input : Input) :
    (hub.process input).roster = hub.roster.next input := by
  cases input with
  | register => rfl
  | subscribe => simp [process, Roster.next, roster, subscribe, register, Roster.enlist]
  | line line =>
    obtain ⟨hdelivery, hroster⟩ := receive_eq hub line
    rw [process, dispatch, Roster.next, ← hdelivery, ← hroster]
    cases hresult : hub.receive line with
    | mk next delivery =>
      rw [hresult] at hdelivery
      cases delivery with
      | none => rfl
      | some delivery => exact roster_finish next delivery (actions_delivery? hdelivery.symm)

theorem visits_process (hub : Hub) (input : Input) :
    (hub.process input).journal.visits = hub.journal.visits ++ hub.roster.visits input := by
  cases input with
  | register => exact (List.append_nil _).symm
  | subscribe => exact (List.append_nil _).symm
  | line line =>
    rw [process, dispatch, Roster.visits, ← (receive_eq hub line).1, ← visits_receive hub line]
    cases hub.receive line with
    | mk next delivery =>
      cases delivery with
      | none => exact (List.append_nil _).symm
      | some delivery => exact visits_finish next delivery

theorem roster_processAll (hub : Hub) (inputs : List Input) :
    (hub.processAll inputs).roster = hub.roster.nextAll inputs := by
  induction inputs generalizing hub with
  | nil => rfl
  | cons input inputs ih =>
    rw [processAll, List.foldl_cons, ← processAll, ih, roster_process]
    rfl

-- The calls come in the order of the lines, and for each line in the order of registration.
theorem visits_processAll (hub : Hub) (inputs : List Input) :
    (hub.processAll inputs).journal.visits =
      hub.journal.visits ++ hub.roster.visitsAll inputs := by
  induction inputs generalizing hub with
  | nil => exact (List.append_nil _).symm
  | cons input inputs ih =>
    rw [processAll, List.foldl_cons, ← processAll, ih, visits_process, roster_process,
      List.append_assoc]
    rfl

end Hub

end QuadCan
