import QuadCan.Proofs.Batch.Wire

namespace QuadCan.Batch

variable {limit size : Nat} {command : Command} {queue : List Command}

theorem fit_eq_full_iff : fit limit size command = .full ↔ limit ≤ size := by
  unfold fit
  split
  next hfull => exact iff_of_true rfl hfull
  split
  next hroom _ => exact iff_of_false nofun hroom
  next hroom _ => exact iff_of_false nofun hroom

theorem fit_eq_joins_iff :
    fit limit size command = .joins ↔ size + command.length + 1 ≤ limit := by
  unfold fit
  split
  next hfull => exact iff_of_false nofun (by omega)
  split
  next hover => exact iff_of_false nofun (Nat.not_le_of_lt hover)
  next hover => exact iff_of_true rfl (Nat.le_of_not_lt hover)

theorem fit_eq_overflows_iff :
    fit limit size command = .overflows ↔ size < limit ∧ limit < size + command.length + 1 := by
  unfold fit
  split
  next hfull => exact iff_of_false nofun (by omega)
  split
  next hroom hover => exact iff_of_true rfl ⟨Nat.lt_of_not_le hroom, hover⟩
  next hover => exact iff_of_false nofun fun h => hover h.2

theorem gather_of_room (h : size + command.length + 1 ≤ limit) :
    gather limit size (command :: queue) =
      { gather limit (size + command.length + 1) queue with
        batch := command :: (gather limit (size + command.length + 1) queue).batch } := by
  rw [gather, fit_eq_joins_iff.mpr h]

theorem gather_of_full (h : limit ≤ size) : gather limit size queue = ⟨[], none, queue⟩ := by
  cases queue with
  | nil => rfl
  | cons command queue => rw [gather, fit_eq_full_iff.mpr h]

-- A command without room is left in the queue or held back. That makes no difference to what is
-- still to come, in which order.
theorem gather_of_no_room (h : limit < size + command.length + 1) :
    (gather limit size (command :: queue)).batch = [] ∧
      (gather limit size (command :: queue)).carry.toList ++
        (gather limit size (command :: queue)).queue = command :: queue := by
  rcases Nat.lt_or_ge size limit with hroom | hfull
  · rw [gather, fit_eq_overflows_iff.mpr ⟨hroom, h⟩]
    exact ⟨rfl, rfl⟩
  · rw [gather_of_full hfull]
    exact ⟨rfl, rfl⟩

-- What is gathered, what is held back and what is left is the queue as it was.
theorem gather_append (limit size : Nat) (queue : List Command) :
    (gather limit size queue).batch ++
      ((gather limit size queue).carry.toList ++ (gather limit size queue).queue) = queue := by
  induction queue generalizing size with
  | nil => rfl
  | cons command queue ih =>
    rcases Nat.lt_or_ge limit (size + command.length + 1) with hover | hroom
    · obtain ⟨hbatch, hqueue⟩ := gather_of_no_room hover
      rw [hbatch, hqueue, List.nil_append]
    · rw [gather_of_room hroom]
      exact congrArg (command :: ·) (ih _)

theorem gather_fits (limit size : Nat) (queue : List Command) :
    (gather limit size queue).batch = [] ∨
      size + Batch.size (gather limit size queue).batch ≤ limit := by
  induction queue generalizing size with
  | nil => exact Or.inl rfl
  | cons command queue ih =>
    rcases Nat.lt_or_ge limit (size + command.length + 1) with hover | hroom
    · exact Or.inl (gather_of_no_room hover).1
    · rw [gather_of_room hroom, Batch.size]
      rcases ih (size + command.length + 1) with hnil | hfits
      · rw [hnil, Batch.size]
        exact Or.inr (by omega)
      · exact Or.inr (by omega)

-- The gathering ends before a command for which there is no room.
theorem gather_stops (limit size : Nat) (queue : List Command) {next : Command}
    {more : List Command} (h : (gather limit size queue).carry.toList ++
      (gather limit size queue).queue = next :: more) :
    limit < size + Batch.size (gather limit size queue).batch + next.length + 1 := by
  induction queue generalizing size with
  | nil => cases h
  | cons command queue ih =>
    rcases Nat.lt_or_ge limit (size + command.length + 1) with hover | hroom
    · obtain ⟨hbatch, hqueue⟩ := gather_of_no_room hover
      rw [hqueue] at h
      obtain ⟨rfl, -⟩ := List.cons.inj h
      rw [hbatch, Batch.size]
      exact hover
    · rw [gather_of_room hroom] at h ⊢
      have hstops := ih _ h
      rw [Batch.size]
      omega

theorem collect_ne_nil (limit : Nat) (windowOpen : Bool) (first : Command)
    (queue : List Command) : (collect limit windowOpen first queue).batch ≠ [] := by
  unfold collect
  split
  next => exact List.cons_ne_nil _ _
  next => exact List.cons_ne_nil _ _

theorem collect_append (limit : Nat) (windowOpen : Bool) (first : Command)
    (queue : List Command) :
    let result := collect limit windowOpen first queue
    result.batch ++ (result.carry.toList ++ result.queue) = first :: queue := by
  unfold collect
  split
  next => exact congrArg (first :: ·) (gather_append limit (first.length + 1) queue)
  next => rfl

-- The command that is held back is the next one, as if it still stood in the queue.
theorem next_eq_none_iff {windowOpen : Bool} {carry : Option Command} {queue : List Command} :
    next limit windowOpen carry queue = none ↔ carry.toList ++ queue = [] := by
  cases carry with
  | some command => simp [next]
  | none => cases queue <;> simp [next]

theorem next_of_cons {windowOpen : Bool} {carry : Option Command} {queue rest : List Command}
    {first : Command} (h : carry.toList ++ queue = first :: rest) :
    next limit windowOpen carry queue = some (collect limit windowOpen first rest) := by
  cases carry with
  | some command =>
    obtain ⟨rfl, rfl⟩ := List.cons.inj h
    rfl
  | none =>
    obtain rfl : queue = first :: rest := h
    rfl

theorem next_shorter {windowOpen : Bool} {carry : Option Command} {queue : List Command}
    {result : Result} (h : next limit windowOpen carry queue = some result) :
    (result.carry.toList ++ result.queue).length < (carry.toList ++ queue).length := by
  cases hcommands : carry.toList ++ queue with
  | nil =>
    rw [next_eq_none_iff.mpr hcommands] at h
    cases h
  | cons first rest =>
    rw [next_of_cons hcommands] at h
    obtain rfl := Option.some.inj h
    have hnonempty := List.length_pos_iff.mpr (collect_ne_nil limit windowOpen first rest)
    have hlength := congrArg List.length (collect_append limit windowOpen first rest)
    rw [List.length_append] at hlength
    rw [← hlength]
    exact Nat.lt_add_of_pos_left hnonempty

end QuadCan.Batch
