import QuadCan.Hub.Basic

namespace QuadCan.Hub

-- A hub after its queue took in commands: they stand at the end, each is counted, and nothing
-- else has changed.
def queued (hub : Hub) (commands : List Command) : Hub :=
  { hub with
    pending := hub.pending ++ commands
    counters := { hub.counters with
      commandsQueued := hub.counters.commandsQueued + UInt64.ofNat commands.length }
    journal := commands.reverse.map .accepted ++ hub.journal }

-- A hub without a queue after it was given commands. Only the journal tells of them.
def discarded (hub : Hub) (commands : List Command) : Hub :=
  { hub with journal := commands.reverse.map .refused ++ hub.journal }

theorem push_of_accepting {hub : Hub} (h : hub.accepting = true) (command : Command) :
    hub.push command = hub.queued [command] := by
  rw [push, if_pos h]
  rfl

theorem push_of_not_accepting {hub : Hub} (h : hub.accepting = false) (command : Command) :
    hub.push command = hub.discarded [command] := by
  rw [push, if_neg (Bool.eq_false_iff.mp h)]
  rfl

theorem queued_nil (hub : Hub) : hub.queued [] = hub := by
  simp [queued]

theorem queued_append (hub : Hub) (commands others : List Command) :
    (hub.queued commands).queued others = hub.queued (commands ++ others) := by
  have hcount : hub.counters.commandsQueued + UInt64.ofNat commands.length +
      UInt64.ofNat others.length =
        hub.counters.commandsQueued + UInt64.ofNat (commands ++ others).length := by
    rw [List.length_append, UInt64.ofNat_add, UInt64.add_assoc]
  simp only [queued, hcount, List.append_assoc, List.reverse_append, List.map_append]

theorem discarded_append (hub : Hub) (commands others : List Command) :
    (hub.discarded commands).discarded others = hub.discarded (commands ++ others) := by
  simp only [discarded, List.append_assoc, List.reverse_append, List.map_append]

-- An open queue takes in all that it is given, in order.
theorem foldl_push_of_accepting {hub : Hub} (h : hub.accepting = true) (commands : List Command) :
    commands.foldl push hub = hub.queued commands := by
  induction commands generalizing hub with
  | nil => exact (queued_nil hub).symm
  | cons command commands ih =>
    have haccepting : (hub.queued [command]).accepting = true := h
    rw [List.foldl_cons, push_of_accepting h, ih haccepting, queued_append, List.singleton_append]

theorem foldl_push_of_not_accepting {hub : Hub} (h : hub.accepting = false)
    (commands : List Command) : commands.foldl push hub = hub.discarded commands := by
  induction commands generalizing hub with
  | nil => rfl
  | cons command commands ih =>
    have haccepting : (hub.discarded [command]).accepting = false := h
    rw [List.foldl_cons, push_of_not_accepting h, ih haccepting, discarded_append,
      List.singleton_append]

end QuadCan.Hub
