import QuadCan.Hub.Delivery

namespace QuadCan

namespace Action

-- How often a run of actions forwards the frame into a mailbox. A panic cuts the
-- run short.
def forwards (mailbox : Nat) : List Action → Nat
  | [] => 0
  | .panic :: _ => 0
  | .forward other :: actions => (if other = mailbox then 1 else 0) + forwards mailbox actions
  | _ :: actions => forwards mailbox actions

-- An action that leaves a mailbox alone, now and through the observers that it
-- brings in.
inductive Spares (mailbox : Nat) : Action → Prop where
  | note (tag : String) : Spares mailbox (.note tag)
  | send (channel : Channel) (frame : Frame) : Spares mailbox (.send channel frame)
  | register {observer : Frame → List Action}
      (hobserver : ∀ frame, ∀ action ∈ observer frame, Spares mailbox action) :
      Spares mailbox (.register observer)
  | forward {other : Nat} (hother : other ≠ mailbox) : Spares mailbox (.forward other)
  | close : Spares mailbox .close
  | panic : Spares mailbox .panic

theorem forwards_of_spares {mailbox : Nat} {actions : List Action}
    (h : ∀ action ∈ actions, action.Spares mailbox) : forwards mailbox actions = 0 := by
  induction actions with
  | nil => rfl
  | cons action actions ih =>
    have hrest := ih fun other hm => h other (List.mem_cons_of_mem action hm)
    cases h action List.mem_cons_self with
    | forward hother => simp only [forwards, if_neg hother, hrest]
    | panic => rfl
    | _ => exact hrest

end Action

def Observer.Spares (mailbox : Nat) (observer : Observer) : Prop :=
  ∀ frame, ∀ action ∈ observer frame, action.Spares mailbox

namespace Observer

-- How often observers forward a frame into a mailbox, one after the other.
def forwards (mailbox : Nat) (frame : Frame) : List Observer → Nat
  | [] => 0
  | observer :: observers =>
      Action.forwards mailbox (observer frame) + forwards mailbox frame observers

theorem forwards_append (mailbox : Nat) (frame : Frame) (observers others : List Observer) :
    forwards mailbox frame (observers ++ others) =
      forwards mailbox frame observers + forwards mailbox frame others := by
  induction observers with
  | nil => exact (Nat.zero_add _).symm
  | cons observer observers ih => rw [List.cons_append, forwards, forwards, ih, Nat.add_assoc]

theorem forwards_of_spares {mailbox : Nat} {observers : List Observer}
    (h : ∀ observer ∈ observers, observer.Spares mailbox) (frame : Frame) :
    forwards mailbox frame observers = 0 := by
  induction observers with
  | nil => rfl
  | cons observer observers ih =>
    have hfirst := Action.forwards_of_spares (h observer List.mem_cons_self frame)
    have hrest := ih fun other hm => h other (List.mem_cons_of_mem observer hm)
    rw [forwards, hfirst, hrest]

end Observer

-- How often a delivery is still to forward its frame into a mailbox.
def Delivery.due (mailbox : Nat) (delivery : Delivery) : Nat :=
  Action.forwards mailbox delivery.actions +
    Observer.forwards mailbox delivery.frame (delivery.waiting.map Prod.fst)

namespace Hub

-- A mailbox that belongs to one observer of a channel. The others spare it, as
-- nobody else holds its key.
structure Subscribed (hub : Hub) (channel : Channel) (mailbox : Nat) : Prop where
  lt : mailbox < hub.mailboxes.length
  own : ∃ before after, hub.observers channel = before ++ Observer.forward mailbox :: after ∧
    ∀ observer ∈ before ++ after, observer.Spares mailbox
  others : ∀ other, other ≠ channel →
    ∀ observer ∈ hub.observers other, observer.Spares mailbox

@[simp] theorem mail_log (hub : Hub) (event : Event) (mailbox : Nat) :
    (hub.log event).mail mailbox = hub.mail mailbox := rfl

@[simp] theorem mail_count (hub : Hub) (change : Counters → Counters) (mailbox : Nat) :
    (hub.count change).mail mailbox = hub.mail mailbox := rfl

theorem mailboxes_push (hub : Hub) (command : Command) :
    (hub.push command).mailboxes = hub.mailboxes := by
  unfold push
  split <;> rfl

theorem observers_push (hub : Hub) (command : Command) :
    (hub.push command).observers = hub.observers := by
  unfold push
  split <;> rfl

theorem length_mailboxes_act (hub : Hub) (channel : Channel) (frame : Frame) (action : Action) :
    (hub.act channel frame action).mailboxes.length = hub.mailboxes.length := by
  cases action with
  | send => rw [act, mailboxes_push]
  | forward => simp [act]
  | _ => rfl

-- What an action adds to a mailbox.
theorem mail_act {hub : Hub} {mailbox : Nat} (h : mailbox < hub.mailboxes.length)
    (channel : Channel) (frame : Frame) (action : Action) :
    (hub.act channel frame action).mail mailbox =
      hub.mail mailbox ++ List.replicate (Action.forwards mailbox [action]) frame := by
  cases action with
  | send => simp [act, mail, mailboxes_push, Action.forwards]
  | forward other =>
    by_cases hother : other = mailbox
    · subst hother
      simp [act, mail, Action.forwards, List.getD_eq_getElem?_getD, h]
    · simp [act, mail, Action.forwards, List.getD_eq_getElem?_getD, hother]
  | _ => simp [act, mail, Action.forwards, log, register]

theorem forwards_cons (mailbox : Nat) (action : Action) (actions : List Action) :
    Action.forwards mailbox (action :: actions) =
      Action.forwards mailbox [action] + Action.forwards mailbox (afterAction actions action) := by
  cases action <;> simp [Action.forwards, afterAction]

-- What a step forwards is no longer due.
theorem mail_of_advance_some {hub next : Hub} {delivery rest : Delivery} {mailbox : Nat}
    (hlt : mailbox < hub.mailboxes.length) (h : hub.advance delivery = (next, some rest)) :
    next.mail mailbox ++ List.replicate (rest.due mailbox) rest.frame =
        hub.mail mailbox ++ List.replicate (delivery.due mailbox) delivery.frame ∧
      next.mailboxes.length = hub.mailboxes.length := by
  obtain ⟨channel, frame, actions, waiting⟩ := delivery
  match actions, waiting with
  | action :: actions, waiting =>
    cases h
    refine ⟨?_, length_mailboxes_act hub channel frame action⟩
    rw [mail_act hlt]
    simp only [Delivery.due]
    rw [forwards_cons mailbox action actions, Nat.add_assoc, List.append_assoc,
      List.replicate_append_replicate]
  | [], (observer, position) :: waiting =>
    cases h
    simp [Delivery.due, Action.forwards, Observer.forwards, log, mail]
  | [], [] => cases h

theorem due_of_advance_none {hub next : Hub} {delivery : Delivery} (mailbox : Nat)
    (h : hub.advance delivery = (next, none)) : next = hub ∧ delivery.due mailbox = 0 := by
  obtain ⟨channel, frame, actions, waiting⟩ := delivery
  match actions, waiting with
  | _ :: _, _ => cases h
  | [], _ :: _ => cases h
  | [], [] => cases h; exact ⟨rfl, rfl⟩

-- A delivery puts into a mailbox what is due to it, whatever else its observers do.
theorem mail_finish {hub : Hub} {delivery : Delivery} {mailbox : Nat}
    (hlt : mailbox < hub.mailboxes.length) :
    (hub.finish delivery).mail mailbox =
      hub.mail mailbox ++ List.replicate (delivery.due mailbox) delivery.frame := by
  fun_induction finish hub delivery with
  | case1 hub delivery next h =>
    obtain ⟨rfl, hdue⟩ := due_of_advance_none mailbox h
    rw [hdue, List.replicate_zero, List.append_nil]
  | case2 hub delivery next rest h ih =>
    obtain ⟨hmail, hlength⟩ := mail_of_advance_some hlt h
    rw [ih (by rw [hlength]; exact hlt), hmail]

theorem Subscribed.register {hub : Hub} {owner : Channel} {mailbox : Nat}
    (h : hub.Subscribed owner mailbox) (channel : Channel) {observer : Observer}
    (hobserver : observer.Spares mailbox) :
    (hub.register channel observer).Subscribed owner mailbox := by
  obtain ⟨before, after, hown, hspares⟩ := h.own
  refine ⟨h.lt, ?_, ?_⟩
  · by_cases hchannel : owner = channel
    · refine ⟨before, after ++ [observer],
        by simp [Hub.register, hchannel, hchannel ▸ hown], ?_⟩
      intro other hm
      simp only [List.mem_append, List.mem_singleton] at hm hspares
      rcases hm with hm | hm | rfl
      · exact hspares other (Or.inl hm)
      · exact hspares other (Or.inr hm)
      · exact hobserver
    · exact ⟨before, after, by simp [Hub.register, hchannel, hown], hspares⟩
  · intro other hother member hm
    by_cases hchannel : other = channel
    · simp only [Hub.register, if_pos hchannel, List.mem_append, List.mem_singleton] at hm
      rcases hm with hm | rfl
      · exact h.others other hother member hm
      · exact hobserver
    · simp only [Hub.register, if_neg hchannel] at hm
      exact h.others other hother member hm

-- The actions of observers where a mailbox has an owner.
def Fair (mailbox : Nat) (actions : List Action) : Prop :=
  ∀ action ∈ actions, action.Spares mailbox ∨ action = .forward mailbox

theorem Subscribed.act {hub : Hub} {owner : Channel} {mailbox : Nat}
    (h : hub.Subscribed owner mailbox) (channel : Channel) (frame : Frame) {action : Action}
    (haction : action.Spares mailbox ∨ action = .forward mailbox) :
    (hub.act channel frame action).Subscribed owner mailbox := by
  have hlt : mailbox < (hub.act channel frame action).mailboxes.length := by
    rw [length_mailboxes_act]
    exact h.lt
  cases action with
  | register observer =>
    rcases haction with haction | haction
    · cases haction with
      | register hobserver => exact h.register channel hobserver
    · cases haction
  | send target sent =>
    exact ⟨hlt, by simpa only [Hub.act, observers_push] using h.own,
      by simpa only [Hub.act, observers_push] using h.others⟩
  | _ => exact ⟨hlt, h.own, h.others⟩

-- Those that wait in a delivery and those whose turn it is are fair.
structure FairDelivery (mailbox : Nat) (delivery : Delivery) : Prop where
  actions : Fair mailbox delivery.actions
  waiting : ∀ entry ∈ delivery.waiting, ∀ frame, Fair mailbox (entry.1 frame)

theorem Subscribed.advance {hub next : Hub} {delivery rest : Delivery} {owner : Channel}
    {mailbox : Nat} (h : hub.Subscribed owner mailbox) (hfair : FairDelivery mailbox delivery)
    (hadvance : hub.advance delivery = (next, some rest)) :
    next.Subscribed owner mailbox ∧ FairDelivery mailbox rest := by
  obtain ⟨channel, frame, actions, waiting⟩ := delivery
  match actions, waiting with
  | action :: actions, waiting =>
    cases hadvance
    refine ⟨h.act channel frame (hfair.actions action List.mem_cons_self), ?_, hfair.waiting⟩
    intro other hm
    refine hfair.actions other (List.mem_cons_of_mem action ?_)
    cases action with
    | panic => cases hm
    | _ => exact hm
  | [], (observer, position) :: waiting =>
    cases hadvance
    exact ⟨⟨h.lt, h.own, h.others⟩, hfair.waiting _ List.mem_cons_self frame,
      fun entry hm => hfair.waiting entry (List.mem_cons_of_mem _ hm)⟩
  | [], [] => cases hadvance

theorem Subscribed.finish {hub : Hub} {delivery : Delivery} {owner : Channel} {mailbox : Nat}
    (h : hub.Subscribed owner mailbox) (hfair : FairDelivery mailbox delivery) :
    (hub.finish delivery).Subscribed owner mailbox := by
  fun_induction Hub.finish hub delivery with
  | case1 hub delivery next hadvance =>
    obtain ⟨rfl, -⟩ := due_of_advance_none mailbox hadvance
    exact h
  | case2 hub delivery next rest hadvance ih =>
    obtain ⟨hnext, hrest⟩ := h.advance hfair hadvance
    exact ih hnext hrest

theorem Subscribed.fair {hub : Hub} {owner : Channel} {mailbox : Nat}
    (h : hub.Subscribed owner mailbox) (channel : Channel) {observer : Observer}
    (hm : observer ∈ hub.observers channel) (frame : Frame) : Fair mailbox (observer frame) := by
  by_cases hchannel : channel = owner
  · subst hchannel
    obtain ⟨before, after, hown, hspares⟩ := h.own
    rw [hown, List.mem_append, List.mem_cons] at hm
    rcases hm with hm | rfl | hm
    · exact fun action ha => Or.inl (hspares observer (by simp [hm]) frame action ha)
    · exact fun action ha => Or.inr (List.mem_singleton.mp ha)
    · exact fun action ha => Or.inl (hspares observer (by simp [hm]) frame action ha)
  · exact fun action ha => Or.inl (h.others channel hchannel observer hm frame action ha)

-- A frame is due once to the mailbox of a subscriber to its channel, and to no other.
theorem Subscribed.due {hub : Hub} {owner : Channel} {mailbox : Nat}
    (h : hub.Subscribed owner mailbox) (channel : Channel) (frame : Frame) :
    Delivery.due mailbox ⟨channel, frame, [], (hub.observers channel).zipIdx⟩ =
      if channel = owner then 1 else 0 := by
  simp only [Delivery.due, List.zipIdx_map_fst, Action.forwards, Nat.zero_add]
  by_cases hchannel : channel = owner
  · subst hchannel
    obtain ⟨before, after, hown, hspares⟩ := h.own
    have hbefore : Observer.forwards mailbox frame before = 0 :=
      Observer.forwards_of_spares (fun observer hm => hspares observer (by simp [hm])) frame
    have hafter : Observer.forwards mailbox frame after = 0 :=
      Observer.forwards_of_spares (fun observer hm => hspares observer (by simp [hm])) frame
    rw [hown, Observer.forwards_append, Observer.forwards, hbefore, hafter]
    simp [Action.forwards, Observer.forward]
  · rw [if_neg hchannel]
    exact Observer.forwards_of_spares (h.others channel hchannel) frame

theorem Subscribed.congr {hub other : Hub} {owner : Channel} {mailbox : Nat}
    (h : hub.Subscribed owner mailbox) (hobservers : other.observers = hub.observers)
    (hmailboxes : other.mailboxes = hub.mailboxes) : other.Subscribed owner mailbox :=
  ⟨hmailboxes ▸ h.lt, hobservers ▸ h.own, hobservers ▸ h.others⟩

-- A payload leaves its frame in the mailbox of each subscriber to its channel.
theorem Subscribed.classify {hub : Hub} {owner : Channel} {mailbox : Nat}
    (h : hub.Subscribed owner mailbox) (channel : Channel) (payload : Bytes) :
    (complete (hub.classify channel payload)).Subscribed owner mailbox ∧
      (complete (hub.classify channel payload)).mail mailbox = hub.mail mailbox ++
        if channel = owner then (Frame.parse? payload).toList else [] := by
  unfold Hub.classify Frame.parse?
  cases hparse : Frame.parse payload with
  | error cause =>
    simp only [Except.toOption, Option.toList, ite_self, List.append_nil]
    split
    next => exact ⟨h.congr rfl rfl, rfl⟩
    next => exact ⟨h.congr rfl rfl, rfl⟩
  | ok frame =>
    have hcounted : (hub.count fun counters =>
        { counters with framesDelivered := counters.framesDelivered + 1 }).Subscribed
          owner mailbox := h.congr rfl rfl
    simp only [Except.toOption, Option.toList, complete]
    refine ⟨hcounted.finish ⟨?_, ?_⟩, ?_⟩
    · intro action hm
      cases hm
    · intro entry hm
      exact h.fair channel (List.fst_mem_of_mem_zipIdx hm)
    · rw [mail_finish hcounted.lt, mail_count, h.due]
      split <;> rfl

-- The frame that a line brings to a channel, if it brings one.
def frameOf? (channel : Channel) (line : Bytes) : Option Frame :=
  if (route line).1 = channel then Frame.parse? (route line).2 else none

theorem Subscribed.dispatch {hub : Hub} {owner : Channel} {mailbox : Nat}
    (h : hub.Subscribed owner mailbox) (line : Bytes) :
    (hub.dispatch line).Subscribed owner mailbox ∧
      (hub.dispatch line).mail mailbox = hub.mail mailbox ++ (frameOf? owner line).toList := by
  unfold Hub.dispatch receive frameOf?
  cases line with
  | nil =>
    refine ⟨h.congr rfl rfl, ?_⟩
    have hnone : (if (route []).1 = owner then Frame.parse? (route []).2 else none) = none := by
      split <;> rfl
    rw [hnone, Option.toList_none, List.append_nil]
    rfl
  | cons byte line =>
    have hnoted : ((hub.count fun counters =>
        { counters with linesReceived := counters.linesReceived + 1 }).log
          (.received (byte :: line))).Subscribed owner mailbox := h.congr rfl rfl
    obtain ⟨hnext, hmail⟩ := hnoted.classify (route (byte :: line)).1 (route (byte :: line)).2
    refine ⟨hnext, ?_⟩
    rw [mail_log, mail_count] at hmail
    rw [hmail]
    split <;> rfl

-- A mailbox fills with the frames of its channel in the order of their lines.
theorem mail_dispatch_all {hub : Hub} {owner : Channel} {mailbox : Nat}
    (h : hub.Subscribed owner mailbox) (lines : List Bytes) :
    (lines.foldl Hub.dispatch hub).mail mailbox =
      hub.mail mailbox ++ lines.filterMap (frameOf? owner) := by
  induction lines generalizing hub with
  | nil => simp
  | cons line lines ih =>
    obtain ⟨hnext, hmail⟩ := h.dispatch line
    rw [List.foldl_cons, ih hnext, hmail, List.append_assoc, List.filterMap_cons]
    cases frameOf? owner line <;> rfl

-- A subscription begins with an empty mailbox that nobody else knows of.
theorem subscribed_subscribe {hub : Hub} (channel : Channel)
    (h : ∀ other, ∀ observer ∈ hub.observers other, observer.Spares hub.mailboxes.length) :
    (hub.subscribe channel).2.Subscribed channel (hub.subscribe channel).1 ∧
      (hub.subscribe channel).2.mail (hub.subscribe channel).1 = [] := by
  refine ⟨⟨by simp [subscribe, register], ⟨hub.observers channel, [], ?_, ?_⟩, ?_⟩, ?_⟩
  · simp [subscribe, register]
  · intro observer hm
    rw [List.append_nil] at hm
    exact h channel observer hm
  · intro other hother observer hm
    simp only [subscribe, register, if_neg hother] at hm
    exact h other observer hm
  · simp [subscribe, mail, register]

end Hub

end QuadCan
