import QuadCan.Bench.Link
import QuadCan.Proofs.Line.Turns

namespace QuadCan

namespace Splitter

-- What the caller gets to see of a turn, with a line as text.
def Turn.outcome : Turn → ReadOutcome
  | line bytes => .line (Utf8.repair bytes)
  | discarded _ => .failed runaway
  | failed error => .failed error

-- Of the bytes that turns cut off just the ends of lines are delimiters.
theorem count_bytes {turns : List Turn}
    (hcontent : ∀ turn ∈ turns, Command.delimiter ∉ turn.content) :
    (turns.flatMap Turn.bytes).count Command.delimiter = turns.countP Turn.isLine := by
  induction turns with
  | nil => rfl
  | cons turn turns ih =>
    obtain ⟨hturn, hturns⟩ := List.forall_mem_cons.mp hcontent
    have hcount := List.count_eq_zero.mpr hturn
    rw [List.flatMap_cons, List.count_append, ih hturns, List.countP_cons, Nat.add_comm]
    cases turn with
    | line bytes =>
      have hline : (bytes ++ [Command.delimiter]).count Command.delimiter = 1 := by
        rw [List.count_append, show bytes.count Command.delimiter = 0 from hcount]
        rfl
      exact congrArg _ hline
    | discarded bytes => exact congrArg _ hcount
    | failed => rfl

end Splitter

namespace Link

open Splitter (Turn Kept Call Starves Calls)

-- A port that yields the reads, with a splitter in the middle of its work.
def port (splitter : Splitter) (reads : List Read) : Link :=
  { store := reads.map .read, splitter := some splitter }

-- A link after a number of calls for a line.
def after (link : Link) : Nat → Link
  | 0 => link
  | calls + 1 => (link.after calls).next.2

theorem reads_map_read (reads : List Read) : Link.reads (reads.map .read) = Read.cut reads := by
  induction reads with
  | nil => rfl
  | cons read reads ih => rw [List.map_cons, Link.reads, ih, Read.cut_cons]

theorem fromCrash_map_read (reads : List Read) : fromCrash (reads.map .read) = [] := by
  induction reads with
  | nil => rfl
  | cons read reads ih => exact ih

section Calls

variable {splitter next : Splitter} {reads rest : List Read} {turn : Turn} {turns : List Turn}

theorem next_of_call (h : splitter.Call (Read.cut reads) turn next rest) :
    (port splitter reads).next = (some turn.outcome, port next rest) := by
  unfold Link.next
  simp only [port, reads_map_read, fromCrash_map_read, h.readLine_eq]
  cases turn with
  | _ => simp only [Turn.result, Turn.outcome, List.append_nil]

theorem next_of_starves (h : splitter.Starves (Read.cut reads)) :
    (port splitter reads).next = (none, port ⟨[], splitter.ahead (Read.cut reads)⟩ []) := by
  unfold Link.next
  simp only [port, reads_map_read, fromCrash_map_read, h.readLine_eq]
  rfl

theorem next_of_calls (h : Calls splitter (Read.cut reads) turns) :
    (port splitter reads).next.1 = turns.head?.map Turn.outcome := by
  cases h with
  | starved hstarves => rw [next_of_starves hstarves]; rfl
  | turn hcall _ => rw [next_of_call hcall]; rfl

end Calls

-- What a number of calls, with their turns, leave of the reads of a port. The bytes that were
-- read are those that the turns cut off and the line that has begun.
structure Leaves (reads : List Read) (turns : List Turn) (calls : Nat) (splitter : Splitter)
    (rest : List Read) : Prop where
  after_eq : (port {} reads).after calls = port splitter rest
  stream_eq : Read.stream reads =
    (turns.take calls).flatMap Turn.bytes ++ splitter.pending ++
      (splitter.buffer ++ Read.stream rest)
  kept : Kept splitter.pending
  used : turns.length < calls → splitter.buffer = [] ∧ rest = []

theorem Leaves.ahead_eq {reads : List Read} {turns : List Turn} {calls : Nat}
    {splitter : Splitter} {rest : List Read} (h : Leaves reads turns calls splitter rest) :
    Read.stream reads =
      (turns.take calls).flatMap Turn.bytes ++ splitter.ahead (Read.cut rest) := by
  rw [h.stream_eq, Splitter.ahead, Read.stream_cut]
  simp only [List.append_assoc]

theorem leaves_of_calls {reads : List Read} {turns : List Turn}
    (h : Calls {} (Read.cut reads) turns) (calls : Nat) :
    ∃ splitter rest, Leaves reads turns calls splitter rest ∧
      Calls splitter (Read.cut rest) (turns.drop calls) := by
  induction calls with
  | zero => exact ⟨{}, reads, ⟨rfl, rfl, Splitter.kept_nil, nofun⟩, h⟩
  | succ calls ih =>
    obtain ⟨splitter, rest, hleaves, hcalls⟩ := ih
    have hahead := hleaves.ahead_eq
    rw [← List.tail_drop]
    generalize hlater : turns.drop calls = later at hcalls
    cases hcalls with
    | starved hstarves =>
      have hlength := List.drop_eq_nil_iff.mp hlater
      refine ⟨⟨[], splitter.ahead (Read.cut rest)⟩, [],
        ⟨?_, ?_, hstarves.kept, fun _ => ⟨rfl, rfl⟩⟩,
        .starved (Splitter.starves_nil hstarves.kept)⟩
      · rw [after, hleaves.after_eq, next_of_starves hstarves]
      · rw [List.take_of_length_le (Nat.le_succ_of_le hlength), hahead,
          List.take_of_length_le hlength]
        exact (List.append_nil _).symm
    | @turn _ next _ more turn later hcall hmore =>
      have hturn : turns[calls]? = some turn := by rw [← List.head?_drop, hlater]; rfl
      refine ⟨next, more, ⟨?_, ?_, hcall.kept, fun hlt => ?_⟩, ?_⟩
      · rw [after, hleaves.after_eq, next_of_call hcall]
      · rw [hahead, hcall.ahead_eq, List.take_add_one, hturn, Splitter.ahead]
        simp
      · have hlt' := (List.getElem?_eq_some_iff.mp hturn).1
        omega
      · rw [Read.cut_of_suffix hcall.suffix]
        exact hmore

-- A port whose calls for a line take the turns one after the other and wait from then on. What
-- a read fails with is passed on, also where it is of the same kind as a runaway.
structure Splits (reads : List Read) (turns : List Turn) : Prop where
  outcomes : ∀ calls, ((port {} reads).after calls).next.1 = turns[calls]?.map Turn.outcome
  leaves : ∀ calls, ∃ splitter rest, Leaves reads turns calls splitter rest
  content : ∀ turn ∈ turns, Command.delimiter ∉ turn.content
  -- Each end of a line that is read makes one call return a line.
  ends : ∀ calls, ((turns.take calls).flatMap Turn.bytes).count Command.delimiter =
    (turns.take calls).countP Turn.isLine
  -- A runaway is thrown away where the buffer is used up, with all that was kept of it.
  discarded : ∀ calls bytes, turns[calls]? = some (.discarded bytes) →
    Splitter.limit < bytes.length ∧ ∃ rest, (port {} reads).after (calls + 1) = port {} rest
  errors : turns.filterMap Turn.error? = reads.filterMap Read.error?
  invalid : ∀ calls error, ((port {} reads).after calls).next.1 = some (.failed error) →
    error.kind = .invalidData →
    Read.failed error ∈ reads ∨ ∃ bytes, turns[calls]? = some (.discarded bytes)

-- A call fails by itself only for a closed port or a runaway.
theorem read_of_failed {reads : List Read} {turns : List Turn} {error : StreamError}
    (herrors : turns.filterMap Turn.error? = reads.filterMap Read.error?)
    (hturn : .failed error ∈ turns) :
    Read.failed error ∈ reads ∨ error = Splitter.endOfStream := by
  have hmem : error ∈ turns.filterMap Turn.error? := List.mem_filterMap.mpr ⟨_, hturn, rfl⟩
  rw [herrors] at hmem
  obtain ⟨read, hread, herror⟩ := List.mem_filterMap.mp hmem
  match read with
  | .failed _ =>
    cases herror
    exact Or.inl hread
  | .data [] =>
    cases herror
    exact Or.inr rfl
  | .data (_ :: _) => cases herror

theorem splits_of_calls {reads : List Read} {turns : List Turn}
    (h : Calls {} (Read.cut reads) turns) : Splits reads turns where
  outcomes calls := by
    obtain ⟨splitter, rest, hleaves, hcalls⟩ := leaves_of_calls h calls
    rw [hleaves.after_eq, next_of_calls hcalls, List.head?_drop]
  leaves calls := by
    obtain ⟨splitter, rest, hleaves, -⟩ := leaves_of_calls h calls
    exact ⟨splitter, rest, hleaves⟩
  content := h.content
  ends calls := Splitter.count_bytes fun turn hturn => h.content turn (List.mem_of_mem_take hturn)
  discarded calls bytes hturn := by
    obtain ⟨splitter, rest, hleaves, hcalls⟩ := leaves_of_calls h calls
    rw [← List.head?_drop] at hturn
    generalize turns.drop calls = later at hcalls hturn
    cases hcalls with
    | starved => cases hturn
    | @turn _ next _ rest _ _ hcall _ =>
      cases hturn
      obtain ⟨hlimit, rfl⟩ := hcall.discarded bytes rfl
      refine ⟨hlimit, rest, ?_⟩
      rw [after, hleaves.after_eq, next_of_call hcall]
  errors := h.errors.trans (Read.errors_cut reads)
  invalid calls error houtcome hkind := by
    obtain ⟨splitter, rest, hleaves, hcalls⟩ := leaves_of_calls h calls
    rw [hleaves.after_eq, next_of_calls hcalls, List.head?_drop] at houtcome
    obtain ⟨turn, hturn, heq⟩ := Option.map_eq_some_iff.mp houtcome
    cases turn with
    | line => cases heq
    | discarded bytes => exact Or.inr ⟨bytes, hturn⟩
    | failed =>
      cases heq
      have herrors := h.errors.trans (Read.errors_cut reads)
      rcases read_of_failed herrors (List.mem_of_getElem? hturn) with hread | rfl
      · exact Or.inl hread
      · cases hkind

-- However a stream is cut into reads, the calls for a line cut it into lines and runaways, and
-- the reads that fail or come without bytes make no difference to these.
theorem exists_splits (reads : List Read) :
    ∃ turns, Splits reads turns ∧ Splits (Read.solid reads) (turns.filter Turn.isCut) := by
  obtain ⟨turns, hturns⟩ :=
    Splitter.exists_calls {} (Read.cut reads) Splitter.kept_nil
  have hsolid := hturns.solid
  rw [Read.solid_cut] at hsolid
  exact ⟨turns, splits_of_calls hturns, splits_of_calls hsolid⟩

end Link

end QuadCan
