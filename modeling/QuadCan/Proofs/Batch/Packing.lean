import Mathlib.Data.List.Chain
import QuadCan.Proofs.Batch.Gather

namespace QuadCan.Batch

-- The longest run at the front of a queue for which a batch has room behind its first command.
structure LongestRun (limit : Nat) (first : Command) (queue run : List Command) : Prop where
  front : run <+: queue
  fits : run = [] ∨ size (first :: run) ≤ limit
  longest : ∀ other, other <+: queue → size (first :: other) ≤ limit →
    other.length ≤ run.length

-- Commands cut into batches in their order, as many as possible to each batch from the first on.
inductive Greedy (limit : Nat) : List Command → List (List Command) → Prop where
  | nil : Greedy limit [] []
  | cons {first : Command} {run rest : List Command} {batches : List (List Command)}
      (hrun : LongestRun limit first (run ++ rest) run) (hrest : Greedy limit rest batches) :
      Greedy limit (first :: (run ++ rest)) ((first :: run) :: batches)

variable {limit : Nat}

section LongestRun

variable {first : Command} {queue run other rest : List Command}

theorem LongestRun.unique (h : LongestRun limit first queue run)
    (h' : LongestRun limit first queue other) : run = other := by
  have hle {run other : List Command} (h : LongestRun limit first queue run)
      (h' : LongestRun limit first queue other) : run.length ≤ other.length := by
    rcases h.fits with rfl | hfits
    · exact Nat.zero_le _
    · exact h'.longest run h.front hfits
  have hlength := Nat.le_antisymm (hle h h') (hle h' h)
  have hfront := List.prefix_of_prefix_length_le h.front h'.front (Nat.le_of_eq hlength)
  exact hfront.eq_of_length hlength

-- It is enough that the next command does not fit.
theorem longestRun_of_next (hfits : run = [] ∨ size (first :: run) ≤ limit)
    (hnext : ∀ command more, rest = command :: more →
      limit < size (first :: run) + command.length + 1) :
    LongestRun limit first (run ++ rest) run := by
  refine ⟨List.prefix_append _ _, hfits, fun other hother hsize => ?_⟩
  refine Nat.le_of_not_lt fun hlt => ?_
  obtain ⟨tail, rfl⟩ := List.prefix_of_prefix_length_le (List.prefix_append run rest) hother
    (Nat.le_of_lt hlt)
  cases tail with
  | nil => simp at hlt
  | cons command tail =>
    obtain ⟨more, hmore⟩ := (List.prefix_append_right_inj run).mp hother
    have hover := hnext command (tail ++ more) (by rw [← hmore]; rfl)
    rw [← List.cons_append, size_append, size.eq_2 command] at hsize
    omega

theorem LongestRun.lt_of_next (h : LongestRun limit first (run ++ rest) run) {command : Command}
    {more : List Command} (hrest : rest = command :: more) :
    limit < size (first :: run) + command.length + 1 := by
  refine Nat.lt_of_not_le fun hfits => ?_
  have hfront : run ++ [command] <+: run ++ rest := by
    rw [List.prefix_append_right_inj, hrest]
    exact List.prefix_append [command] more
  have hlonger := h.longest _ hfront (by rwa [← List.cons_append, size_concat])
  rw [List.length_append, List.length_singleton] at hlonger
  omega

end LongestRun

section Greedy

variable {commands : List Command} {batches others : List (List Command)}

theorem Greedy.unique (h : Greedy limit commands batches) (h' : Greedy limit commands others) :
    batches = others := by
  induction h generalizing others with
  | nil => cases h'; rfl
  | @cons first run rest batches hrun hrest ih =>
    generalize hcommands : first :: (run ++ rest) = commands at h'
    cases h' with
    | nil => cases hcommands
    | @cons first' run' rest' batches' hrun' hrest' =>
      obtain ⟨rfl, hqueue⟩ := List.cons.inj hcommands
      rw [← hqueue] at hrun'
      obtain rfl := hrun.unique hrun'
      obtain rfl := List.append_cancel_left hqueue
      rw [ih hrest']

theorem Greedy.flatten_eq (h : Greedy limit commands batches) : batches.flatten = commands := by
  induction h with
  | nil => rfl
  | cons _ _ ih => rw [List.flatten_cons, ih, List.cons_append]

-- The first command of a batch had no room in the one before.
theorem Greedy.isChain (h : Greedy limit commands batches) :
    batches.IsChain fun batch other => limit < (wire batch).length + (wire other).length := by
  induction h with
  | nil => exact .nil
  | @cons first run rest batches hrun hrest ih =>
    cases hrest with
    | nil => exact .singleton _
    | @cons command run' rest' batches' _ _ =>
      refine .cons_cons ?_ ih
      have hover := hrun.lt_of_next rfl
      have hsize : size (command :: run') = command.length + 1 + size run' := rfl
      rw [length_wire, length_wire, hsize]
      omega

end Greedy

theorem longestRun_gather (limit : Nat) (first : Command) (queue : List Command) :
    let result := gather limit (first.length + 1) queue
    LongestRun limit first (result.batch ++ (result.carry.toList ++ result.queue)) result.batch :=
  longestRun_of_next (gather_fits limit (first.length + 1) queue)
    fun _ _ => gather_stops limit (first.length + 1) queue

-- The batches that come of a queue and the command held back, one after the other until neither
-- has anything left. No window closes before its batch is complete.
def packs (limit : Nat) (carry : Option Command) (queue : List Command) : List (List Command) :=
  match _hnext : next limit true carry queue with
  | none => []
  | some result => result.batch :: packs limit result.carry result.queue
termination_by (carry.toList ++ queue).length
decreasing_by exact next_shorter _hnext

theorem packs_nil (limit : Nat) : packs limit none [] = [] := by
  rw [packs]
  rfl

theorem packs_of_cons {carry : Option Command} {queue rest : List Command} {first : Command}
    (h : carry.toList ++ queue = first :: rest) :
    packs limit carry queue =
      (first :: (gather limit (first.length + 1) rest).batch) ::
        packs limit (gather limit (first.length + 1) rest).carry
          (gather limit (first.length + 1) rest).queue := by
  rw [packs]
  split
  next hnone =>
    rw [next_of_cons h] at hnone
    cases hnone
  next result hresult =>
    rw [next_of_cons h] at hresult
    cases hresult
    rfl

theorem greedy_packs (limit : Nat) (carry : Option Command) (queue : List Command) :
    Greedy limit (carry.toList ++ queue) (packs limit carry queue) := by
  fun_induction packs limit carry queue with
  | case1 carry queue hnext =>
    rw [next_eq_none_iff.mp hnext]
    exact .nil
  | case2 carry queue result hnext ih =>
    cases hcommands : carry.toList ++ queue with
    | nil =>
      rw [next_eq_none_iff.mpr hcommands] at hnext
      cases hnext
    | cons first rest =>
      rw [next_of_cons hcommands] at hnext
      cases hnext
      have hgreedy := Greedy.cons (longestRun_gather limit first rest) ih
      rwa [gather_append] at hgreedy

-- It makes no difference whether a command is held back or still stands in the queue.
theorem packs_carry (limit : Nat) (carry : Option Command) (queue : List Command) :
    packs limit none (carry.toList ++ queue) = packs limit carry queue :=
  (greedy_packs limit none (carry.toList ++ queue)).unique (greedy_packs limit carry queue)

end QuadCan.Batch
