import QuadCan.Proofs.Hub.Roster

namespace QuadCan

namespace Input

-- The frame that an input brings to a channel, if it brings one.
def frame? (channel : Channel) : Input → Option Frame
  | .line bytes => Hub.frameOf? channel bytes
  | _ => none

-- A line concerns the channel of its frame. Without a frame it concerns nobody.
def concerns (channel : Channel) : Input → Bool
  | .line bytes => (Hub.frameOf? channel bytes).isSome
  | _ => true

-- An observer that is registered leaves a mailbox alone.
def Spares (mailbox : Nat) : Input → Prop
  | .register _ observer => observer.Spares mailbox
  | _ => True

private theorem frame?_of_not_concerns {channel : Channel} {input : Input}
    (h : input.concerns channel = false) : input.frame? channel = none := by
  cases input with
  | line bytes => exact Option.isSome_eq_false_iff.mp h |> Option.isNone_iff_eq_none.mp
  | _ => rfl

theorem filterMap_frame?_filter (channel : Channel) (inputs : List Input) :
    (inputs.filter (concerns channel)).filterMap (frame? channel) =
      inputs.filterMap (frame? channel) := by
  induction inputs with
  | nil => rfl
  | cons input inputs ih =>
    cases hconcerns : input.concerns channel with
    | true => rw [List.filter_cons_of_pos hconcerns, List.filterMap_cons, List.filterMap_cons, ih]
    | false =>
      rw [List.filter_cons_of_neg (Bool.not_eq_true _ ▸ hconcerns), List.filterMap_cons,
        frame?_of_not_concerns hconcerns, ih]

end Input

namespace Roster

-- Two rosters that a channel cannot tell apart.
structure AgreeOn (channel : Channel) (first second : Roster) : Prop where
  observers : first.observers channel = second.observers channel
  mailboxes : first.mailboxes = second.mailboxes

variable {channel : Channel} {first second : Roster} {input : Input}

theorem AgreeOn.trans {third : Roster} (h : first.AgreeOn channel second)
    (h' : second.AgreeOn channel third) : first.AgreeOn channel third :=
  ⟨h.observers.trans h'.observers, h.mailboxes.trans h'.mailboxes⟩

theorem AgreeOn.symm (h : first.AgreeOn channel second) : second.AgreeOn channel first :=
  ⟨h.observers.symm, h.mailboxes.symm⟩

theorem AgreeOn.enlist (h : first.AgreeOn channel second) (target : Channel)
    (recruits : List Observer) :
    (first.enlist target recruits).AgreeOn channel (second.enlist target recruits) := by
  refine ⟨?_, h.mailboxes⟩
  unfold Roster.enlist
  dsimp only
  rw [h.observers]

private theorem agreeOn_enlist_other (roster : Roster) {target : Channel}
    (h : target ≠ channel) (recruits : List Observer) :
    (roster.enlist target recruits).AgreeOn channel roster :=
  ⟨if_neg h.symm, rfl⟩

-- The calls on one channel.
def visitsOn (channel : Channel) (visits : List Visit) : List Visit :=
  visits.filter fun visit => visit.channel = channel

private theorem visitsOn_other {delivery : Delivery} (h : delivery.channel ≠ channel) :
    visitsOn channel delivery.visits = [] := by
  refine List.filter_eq_nil_iff.mpr ?_
  intro visit hm
  obtain ⟨entry, -, rfl⟩ := List.mem_map.mp hm
  simpa using h

private theorem channel_delivery? {roster : Roster} {line : Bytes} {delivery : Delivery}
    (h : roster.delivery? line = some delivery) :
    delivery.channel = (route line).1 ∧ Frame.parse? (route line).2 = some delivery.frame := by
  obtain ⟨frame, hframe, rfl⟩ := Option.map_eq_some_iff.mp h
  exact ⟨rfl, hframe⟩

-- An input that does not concern a channel calls nobody on it and brings nobody in.
theorem aside_of_not_concerns (roster : Roster) (h : input.concerns channel = false) :
    visitsOn channel (roster.visits input) = [] ∧ (roster.next input).AgreeOn channel roster := by
  cases input with
  | line line =>
    rw [visits, next]
    cases hdelivery : roster.delivery? line with
    | none => exact ⟨rfl, rfl, rfl⟩
    | some delivery =>
      obtain ⟨hchannel, hframe⟩ := channel_delivery? hdelivery
      have hother : delivery.channel ≠ channel := by
        intro heq
        rw [Input.concerns, Hub.frameOf?, ← hchannel, if_pos heq, hframe] at h
        cases h
      exact ⟨visitsOn_other hother, agreeOn_enlist_other roster hother _⟩
  | _ => cases h

-- One that concerns the channel has the same effect on it from rosters that agree there.
theorem AgreeOn.of_concerns (h : first.AgreeOn channel second)
    (hconcerns : input.concerns channel = true) :
    visitsOn channel (first.visits input) = visitsOn channel (second.visits input) ∧
      (first.next input).AgreeOn channel (second.next input) := by
  cases input with
  | line line =>
    have hroute : (route line).1 = channel := by
      by_cases hroute : (route line).1 = channel
      · exact hroute
      · rw [Input.concerns, Hub.frameOf?, if_neg hroute] at hconcerns
        cases hconcerns
    have hdelivery : first.delivery? line = second.delivery? line := by
      rw [delivery?, delivery?, hroute, h.observers]
    rw [visits, visits, next, next, hdelivery]
    cases second.delivery? line with
    | none => exact ⟨rfl, h⟩
    | some delivery => exact ⟨rfl, h.enlist _ _⟩
  | register target observer => exact ⟨rfl, h.enlist target _⟩
  | subscribe target =>
    rw [next, next, h.mailboxes]
    have hadded : ({ first with mailboxes := second.mailboxes + 1 } : Roster).AgreeOn channel
        { second with mailboxes := second.mailboxes + 1 } := ⟨h.observers, rfl⟩
    exact ⟨rfl, hadded.enlist target _⟩

theorem visitsOn_append (visits others : List Visit) :
    visitsOn channel (visits ++ others) = visitsOn channel visits ++ visitsOn channel others :=
  List.filter_append _ _

-- What happens on a channel is what happens there without the lines that do not concern it.
theorem AgreeOn.filter (h : first.AgreeOn channel second) (inputs : List Input) :
    visitsOn channel (first.visitsAll inputs) =
        visitsOn channel (second.visitsAll (inputs.filter (Input.concerns channel))) ∧
      (first.nextAll inputs).AgreeOn channel
        (second.nextAll (inputs.filter (Input.concerns channel))) := by
  induction inputs generalizing first second with
  | nil => exact ⟨rfl, h⟩
  | cons input inputs ih =>
    rw [visitsAll, visitsOn_append, nextAll, List.foldl_cons, ← nextAll]
    cases hconcerns : input.concerns channel with
    | false =>
      obtain ⟨hnone, hnext⟩ := aside_of_not_concerns first hconcerns
      rw [List.filter_cons_of_neg (Bool.not_eq_true _ ▸ hconcerns), hnone, List.nil_append]
      exact ih (hnext.trans h)
    | true =>
      obtain ⟨hvisits, hnext⟩ := h.of_concerns hconcerns
      obtain ⟨hrest, hlast⟩ := ih hnext
      rw [List.filter_cons_of_pos hconcerns, visitsAll, visitsOn_append, hvisits, hrest]
      exact ⟨rfl, hlast⟩

theorem agreeOn_of_filter_eq (roster : Roster) {inputs others : List Input}
    (h : inputs.filter (Input.concerns channel) = others.filter (Input.concerns channel)) :
    visitsOn channel (roster.visitsAll inputs) = visitsOn channel (roster.visitsAll others) ∧
      (roster.nextAll inputs).AgreeOn channel (roster.nextAll others) := by
  have hsame : roster.AgreeOn channel roster := ⟨rfl, rfl⟩
  obtain ⟨hvisits, hnext⟩ := hsame.filter inputs
  obtain ⟨hvisits', hnext'⟩ := hsame.filter others
  rw [h] at hvisits hnext
  exact ⟨hvisits.trans hvisits'.symm, hnext.trans hnext'.symm⟩

-- Nobody on the roster puts anything into a mailbox.
def Spares (mailbox : Nat) (roster : Roster) : Prop :=
  ∀ channel, ∀ observer ∈ roster.observers channel, observer.Spares mailbox

variable {mailbox : Nat} {roster : Roster}

theorem Spares.enlist (h : roster.Spares mailbox) (channel : Channel) {recruits : List Observer}
    (hrecruits : ∀ observer ∈ recruits, observer.Spares mailbox) :
    (roster.enlist channel recruits).Spares mailbox := by
  intro other observer hm
  unfold Roster.enlist at hm
  dsimp only at hm
  split at hm
  next =>
    rcases List.mem_append.mp hm with hm | hm
    · exact h other observer hm
    · exact hrecruits observer hm
  next => exact h other observer hm

end Roster

theorem Action.performed_sublist (actions : List Action) : (performed actions).Sublist actions := by
  induction actions with
  | nil => exact .slnil
  | cons action actions ih =>
    cases action with
    | panic => exact List.Sublist.cons_cons _ (List.nil_sublist _)
    | _ => exact List.Sublist.cons_cons _ ih

theorem Delivery.spares_recruits {delivery : Delivery} {mailbox : Nat}
    (h : ∀ entry ∈ delivery.waiting, Observer.Spares mailbox entry.1) :
    ∀ observer ∈ delivery.recruits, Observer.Spares mailbox observer := by
  intro observer hm
  obtain ⟨entry, hentry, hm⟩ := List.mem_flatMap.mp hm
  obtain ⟨action, haction, hrecruit⟩ := List.mem_filterMap.mp hm
  have hspares := h entry hentry delivery.frame action
    ((Action.performed_sublist _).subset haction)
  cases hspares with
  | register hobserver =>
    cases hrecruit
    exact hobserver
  | _ => cases hrecruit

namespace Roster

variable {mailbox : Nat} {roster : Roster} {input : Input}

theorem mailboxes_le_next (roster : Roster) (input : Input) :
    roster.mailboxes ≤ (roster.next input).mailboxes := by
  cases input with
  | line line =>
    unfold next
    dsimp only
    split
    next => exact Nat.le_refl _
    next => exact Nat.le_refl _
  | register => exact Nat.le_refl _
  | subscribe => exact Nat.le_succ _

theorem mailboxes_le_nextAll (roster : Roster) (inputs : List Input) :
    roster.mailboxes ≤ (roster.nextAll inputs).mailboxes := by
  induction inputs generalizing roster with
  | nil => exact Nat.le_refl _
  | cons input inputs ih => exact Nat.le_trans (mailboxes_le_next roster input) (ih _)

theorem Spares.next (h : roster.Spares mailbox) (hinput : input.Spares mailbox)
    (hfree : (roster.next input).mailboxes ≤ mailbox) : (roster.next input).Spares mailbox := by
  cases input with
  | line line =>
    rw [Roster.next]
    cases hdelivery : roster.delivery? line with
    | none => exact h
    | some delivery =>
      refine h.enlist delivery.channel (Delivery.spares_recruits ?_)
      intro entry hm
      obtain ⟨frame, -, rfl⟩ := Option.map_eq_some_iff.mp hdelivery
      exact h _ _ (List.fst_mem_of_mem_zipIdx hm)
  | register channel observer =>
    exact h.enlist channel (List.forall_mem_singleton.mpr hinput)
  | subscribe channel =>
    have hother : roster.mailboxes ≠ mailbox := Nat.ne_of_lt hfree
    have hadded : ({ roster with mailboxes := roster.mailboxes + 1 } : Roster).Spares mailbox := h
    refine hadded.enlist channel (List.forall_mem_singleton.mpr ?_)
    intro frame action hm
    rw [List.mem_singleton.mp hm]
    exact .forward hother

theorem Spares.nextAll {inputs : List Input} (h : roster.Spares mailbox)
    (hinputs : ∀ input ∈ inputs, input.Spares mailbox)
    (hfree : (roster.nextAll inputs).mailboxes ≤ mailbox) :
    (roster.nextAll inputs).Spares mailbox := by
  induction inputs generalizing roster with
  | nil => exact h
  | cons input inputs ih =>
    obtain ⟨hinput, hrest⟩ := List.forall_mem_cons.mp hinputs
    have hmailboxes := Nat.le_trans (mailboxes_le_nextAll (roster.next input) inputs) hfree
    exact ih (h.next hinput hmailboxes) hrest hfree

end Roster

namespace Hub

variable {hub : Hub} {owner : Channel} {mailbox : Nat}

theorem Subscribed.process (h : hub.Subscribed owner mailbox) {input : Input}
    (hinput : input.Spares mailbox) :
    (hub.process input).Subscribed owner mailbox ∧
      (hub.process input).mail mailbox = hub.mail mailbox ++ (input.frame? owner).toList := by
  cases input with
  | line line => exact h.dispatch line
  | register channel observer => exact ⟨h.register channel hinput, (List.append_nil _).symm⟩
  | subscribe channel =>
    have hother : hub.mailboxes.length ≠ mailbox := Nat.ne_of_gt h.lt
    have hadded :
        ({ hub with mailboxes := hub.mailboxes ++ [[]] } : Hub).Subscribed owner mailbox :=
      ⟨by simpa using Nat.lt_succ_of_lt h.lt, h.own, h.others⟩
    have hspares : (Observer.forward hub.mailboxes.length).Spares mailbox := by
      intro frame action hm
      rw [List.mem_singleton.mp hm]
      exact .forward hother
    have hmail : (hub.subscribe channel).2.mail mailbox = hub.mail mailbox := by
      simp [subscribe, mail, Hub.register, List.getD_eq_getElem?_getD,
        List.getElem?_append_left h.lt]
    exact ⟨hadded.register channel hspares, hmail.trans (List.append_nil _).symm⟩

theorem Subscribed.mail_processAll (h : hub.Subscribed owner mailbox) {inputs : List Input}
    (hinputs : ∀ input ∈ inputs, input.Spares mailbox) :
    (hub.processAll inputs).mail mailbox =
      hub.mail mailbox ++ inputs.filterMap (Input.frame? owner) := by
  induction inputs generalizing hub with
  | nil => exact (List.append_nil _).symm
  | cons input inputs ih =>
    obtain ⟨hinput, hrest⟩ := List.forall_mem_cons.mp hinputs
    obtain ⟨hnext, hmail⟩ := h.process hinput
    rw [processAll, List.foldl_cons, ← processAll, ih hnext hrest, hmail, List.append_assoc,
      List.filterMap_cons]
    cases input.frame? owner with
    | _ => rfl

theorem mail_subscription (hub : Hub) (before after : List Input) (channel : Channel)
    (hhub : hub.roster.Spares (hub.processAll before).mailboxes.length)
    (hinputs : ∀ input ∈ before ++ after,
      input.Spares (hub.processAll before).mailboxes.length) :
    (hub.processAll (before ++ .subscribe channel :: after)).mail
        (hub.processAll before).mailboxes.length =
      after.filterMap (Input.frame? channel) := by
  obtain ⟨hbefore, hafter⟩ := List.forall_mem_append.mp hinputs
  have hroster := roster_processAll hub before
  have hmailboxes : (hub.roster.nextAll before).mailboxes =
      (hub.processAll before).mailboxes.length := congrArg Roster.mailboxes hroster.symm
  have hspares := hhub.nextAll hbefore (Nat.le_of_eq hmailboxes)
  rw [← hroster] at hspares
  obtain ⟨hsubscribed, hempty⟩ := subscribed_subscribe channel hspares
  have hmail := hsubscribed.mail_processAll hafter
  rw [hempty, List.nil_append] at hmail
  rw [processAll, List.foldl_append, List.foldl_cons]
  exact hmail

-- How a hub delivers lines, in any state and whatever its observers do.
structure DeliversInTurn (hub : Hub) : Prop where
  -- each who was registered when the line came has one turn, in the order of registration
  turns (line : Bytes) :
    hub.dispatch line = (hub.roster.delivery? line).elim (hub.receive line).1 fun delivery =>
      delivery.waiting.foldl (consult delivery.channel delivery.frame) (hub.receive line).1
  -- the calls are those of the lines, in the order of the lines
  visits (inputs : List Input) :
    (hub.processAll inputs).journal.visits = hub.journal.visits ++ hub.roster.visitsAll inputs
  -- who comes in during a delivery stands behind those who have their turns in it
  roster (inputs : List Input) : (hub.processAll inputs).roster = hub.roster.nextAll inputs
  places (inputs : List Input) (channel : Channel) :
    hub.observers channel <+: (hub.processAll inputs).observers channel
  -- lines without a frame for a channel make no difference there
  isolated (inputs others : List Input) (channel : Channel)
    (h : inputs.filter (Input.concerns channel) = others.filter (Input.concerns channel)) :
    Roster.visitsOn channel (hub.processAll inputs).journal.visits =
        Roster.visitsOn channel (hub.processAll others).journal.visits ∧
      (hub.processAll inputs).observers channel = (hub.processAll others).observers channel ∧
      inputs.filterMap (Input.frame? channel) = others.filterMap (Input.frame? channel)
  -- a subscription fills with the frames of its channel that come after it, as its mailbox is
  -- known to nobody else
  mail (before after : List Input) (channel : Channel)
    (hhub : hub.roster.Spares (hub.processAll before).mailboxes.length)
    (hinputs : ∀ input ∈ before ++ after,
      input.Spares (hub.processAll before).mailboxes.length) :
    (hub.processAll (before ++ .subscribe channel :: after)).mail
        ((hub.processAll before).subscribe channel).1 = after.filterMap (Input.frame? channel)

theorem deliversInTurn (hub : Hub) : hub.DeliversInTurn where
  turns := dispatch_eq hub
  visits := visits_processAll hub
  roster := roster_processAll hub
  places := by
    intro inputs channel
    have hplaces := Roster.prefix_nextAll hub.roster inputs channel
    rw [← roster_processAll] at hplaces
    exact hplaces
  isolated := by
    intro inputs others channel h
    obtain ⟨hvisits, hroster⟩ := Roster.agreeOn_of_filter_eq hub.roster h
    rw [← roster_processAll, ← roster_processAll] at hroster
    refine ⟨?_, hroster.observers, ?_⟩
    · rw [visits_processAll, visits_processAll, Roster.visitsOn_append, Roster.visitsOn_append,
        hvisits]
    · rw [← Input.filterMap_frame?_filter, h, Input.filterMap_frame?_filter]
  mail := mail_subscription hub

-- The first observer panics, the second brings in a third, and then there is a subscriber. All
-- have the first frame but the third, which has only the one after it.
theorem deliversInTurn_recruit :
    let frame := Frame.ofData 0x123 [0x0D]
    let before : List Input := [.register 1 (.panic "first"), .register 1 (.recruit "third")]
    let after : List Input := [.line (frame.encode 1), .line (frame.encode 2),
      .line (Utf8.ofString "1z"), .line (frame.encode 1)]
    (({} : Hub).processAll (before ++ .subscribe 1 :: after)).mail 0 = [frame, frame] ∧
      (({} : Hub).processAll (before ++ .subscribe 1 :: after)).journal.visits =
        [⟨1, 0, frame⟩, ⟨1, 1, frame⟩, ⟨1, 2, frame⟩,
          ⟨1, 0, frame⟩, ⟨1, 1, frame⟩, ⟨1, 2, frame⟩, ⟨1, 3, frame⟩] := by
  intro frame before after
  have hturn := deliversInTurn {}
  refine ⟨?_, ?_⟩
  · refine (hturn.mail before after 1 nofun ?_).trans (by decide)
    intro input hm
    simp only [before, after, List.cons_append, List.nil_append, List.mem_cons, List.not_mem_nil,
      or_false] at hm
    rcases hm with rfl | rfl | rfl | rfl | rfl | rfl
    · intro _ action hm
      rcases List.mem_cons.mp hm with rfl | hm
      · exact .note _
      · exact List.mem_singleton.mp hm ▸ .panic
    · intro _ action hm
      rw [List.mem_singleton.mp hm]
      exact .register fun _ action hm => List.mem_singleton.mp hm ▸ .note _
    all_goals exact trivial
  · exact (hturn.visits _).trans (by decide)

end Hub

end QuadCan
