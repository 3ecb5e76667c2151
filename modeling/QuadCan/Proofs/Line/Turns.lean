import QuadCan.Proofs.Line.Reads

namespace QuadCan

namespace Splitter

-- The part of a line that may be kept until the line ends.
structure Kept (pending : Bytes) : Prop where
  delimiter : Command.delimiter ∉ pending
  limit : pending.length ≤ limit

theorem kept_nil : Kept [] :=
  ⟨List.not_mem_nil, Nat.zero_le _⟩

-- What one call for a line does, unless it starves: it cuts a line or a runaway off the stream,
-- or it passes on that a read failed.
inductive Turn where
  | line (bytes : Bytes)
  | discarded (bytes : Bytes)
  | failed (error : StreamError)
deriving DecidableEq, Repr

namespace Turn

def result : Turn → Result
  | line bytes => .line bytes
  | discarded _ => .failed runaway
  | failed error => .failed error

-- The bytes that the turn cuts off, without the end of the line.
def content : Turn → Bytes
  | line bytes => bytes
  | discarded bytes => bytes
  | failed _ => []

-- The bytes that the turn cuts off.
def bytes : Turn → Bytes
  | line bytes => bytes ++ [Command.delimiter]
  | discarded bytes => bytes
  | failed _ => []

def isLine : Turn → Bool
  | line _ => true
  | _ => false

def isCut : Turn → Bool
  | failed _ => false
  | _ => true

def error? : Turn → Option StreamError
  | failed error => some error
  | _ => none

theorem result_ne_starved (turn : Turn) : turn.result ≠ .starved := by
  cases turn with
  | _ => exact nofun

end Turn

-- A call that answers with a turn. In front of the reads that are left there is nothing but
-- what the turn cut off or failed with, and failures do not change what comes after them.
structure Call (splitter : Splitter) (reads : List Read) (turn : Turn) (next : Splitter)
    (rest : List Read) : Prop where
  readLine_eq : splitter.readLine reads = (turn.result, next, rest)
  ahead_eq : splitter.ahead reads = turn.bytes ++ next.ahead rest
  kept : Kept next.pending
  content : Command.delimiter ∉ turn.content
  discarded : ∀ bytes, turn = .discarded bytes → limit < bytes.length ∧ next = {}
  errors : reads.filterMap Read.error? = turn.error?.toList ++ rest.filterMap Read.error?
  suffix : rest <:+ reads
  solid_eq : splitter.readLine (Read.solid reads) =
    if turn.isCut then (turn.result, next, Read.solid rest) else next.readLine (Read.solid rest)

-- A call that uses up all reads and finds no end of a line.
structure Starves (splitter : Splitter) (reads : List Read) : Prop where
  readLine_eq : splitter.readLine reads = (.starved, ⟨[], splitter.ahead reads⟩, [])
  kept : Kept (splitter.ahead reads)
  errors : reads.filterMap Read.error? = []

def Answers (splitter : Splitter) (reads : List Read) : Prop :=
  splitter.Starves reads ∨ ∃ turn next rest, splitter.Call reads turn next rest

-- A call that does as another one, with bytes in another place.
structure Defers (first : Splitter) (reads : List Read) (second : Splitter) (more : List Read) :
    Prop where
  readLine_eq : first.readLine reads = second.readLine more
  ahead_eq : first.ahead reads = second.ahead more
  errors : reads.filterMap Read.error? = more.filterMap Read.error?
  suffix : more <:+ reads
  solid_eq : first.readLine (Read.solid reads) = second.readLine (Read.solid more)

section Defers

variable {first second : Splitter} {reads more : List Read}

theorem Starves.of_defers (h : second.Starves more) (hdefers : first.Defers reads second more) :
    first.Starves reads where
  readLine_eq := by rw [hdefers.readLine_eq, hdefers.ahead_eq]; exact h.readLine_eq
  kept := by rw [hdefers.ahead_eq]; exact h.kept
  errors := hdefers.errors.trans h.errors

theorem Call.of_defers {turn : Turn} {next : Splitter} {rest : List Read}
    (h : second.Call more turn next rest) (hdefers : first.Defers reads second more) :
    first.Call reads turn next rest where
  readLine_eq := hdefers.readLine_eq.trans h.readLine_eq
  ahead_eq := hdefers.ahead_eq.trans h.ahead_eq
  kept := h.kept
  content := h.content
  discarded := h.discarded
  errors := hdefers.errors.trans h.errors
  suffix := h.suffix.trans hdefers.suffix
  solid_eq := hdefers.solid_eq.trans h.solid_eq

theorem Answers.of_defers (h : second.Answers more) (hdefers : first.Defers reads second more) :
    first.Answers reads := by
  rcases h with hstarves | ⟨turn, next, rest, hcall⟩
  · exact Or.inl (hstarves.of_defers hdefers)
  · exact Or.inr ⟨turn, next, rest, hcall.of_defers hdefers⟩

end Defers

theorem readLine_of_scan_some {splitter next : Splitter} {result : Result}
    (hbuffer : splitter.buffer ≠ []) (hscan : splitter.scan = (some result, next))
    (reads : List Read) : splitter.readLine reads = (result, next, reads) := by
  unfold readLine
  split
  next hempty => exact absurd hempty hbuffer
  next => rw [hscan]

theorem readLine_of_scan_none {splitter : Splitter} {pending : Bytes}
    (hbuffer : splitter.buffer ≠ []) (hscan : splitter.scan = (none, ⟨[], pending⟩))
    (reads : List Read) : splitter.readLine reads = readLine ⟨[], pending⟩ reads := by
  conv => lhs; unfold readLine
  split
  next hempty => exact absurd hempty hbuffer
  next =>
    rw [hscan]
    rfl

-- A read into an empty buffer is as if the bytes had been there before.
theorem defers_fill (pending : Bytes) {bytes : Bytes} (hbytes : bytes ≠ []) (reads : List Read) :
    Defers ⟨[], pending⟩ (.data bytes :: reads) ⟨bytes, pending⟩ reads := by
  obtain ⟨byte, bytes, rfl⟩ := List.exists_cons_of_ne_nil hbytes
  exact ⟨rfl, by simp [ahead, Read.stream_cons, Read.bytes], rfl, List.suffix_cons _ _, rfl⟩

theorem starves_nil {pending : Bytes} (hpending : Kept pending) : Starves ⟨[], pending⟩ [] where
  readLine_eq := by simp [ahead, readLine, refill, Read.stream]
  kept := by simpa [ahead, Read.stream] using hpending
  errors := rfl

theorem call_of_error {pending : Bytes} (hpending : Kept pending) {read : Read}
    {error : StreamError} (herror : read.error? = some error) (reads : List Read) :
    Call ⟨[], pending⟩ (read :: reads) (.failed error) ⟨[], pending⟩ reads where
  readLine_eq := by
    match read with
    | .data [] | .failed _ => cases herror; rfl
    | .data (_ :: _) => cases herror
  ahead_eq := by rw [ahead, Read.stream_cons, Read.bytes_of_error herror]; rfl
  kept := hpending
  content := List.not_mem_nil
  discarded := nofun
  errors := by rw [List.filterMap_cons, herror]; rfl
  suffix := List.suffix_cons _ _
  solid_eq := by rw [Read.solid_of_error herror]; rfl

-- With something in the buffer the line ends there, or the line is thrown away, or the call goes
-- on with an empty buffer.
theorem Answers.of_empty {splitter : Splitter} {reads : List Read}
    (hkept : Kept splitter.pending)
    (hempty : ∀ pending, Kept pending → Answers ⟨[], pending⟩ reads) :
    splitter.Answers reads := by
  obtain ⟨buffer, pending⟩ := splitter
  by_cases hbuffer : buffer = []
  · rw [hbuffer]
    exact hempty pending hkept
  rcases scan_cases ⟨buffer, pending⟩ with ⟨front, after, hfront, hcut, hscan⟩ |
    ⟨hmem, hlimit, hscan⟩ | ⟨hmem, hlimit, hscan⟩
  · have hread := readLine_of_scan_some hbuffer hscan
    have hline : Command.delimiter ∉ pending ++ front := by simp [hkept.delimiter, hfront]
    refine Or.inr ⟨.line (pending ++ front), ⟨after, []⟩, reads, hread reads, ?_, ?_, hline,
      nofun, rfl, List.suffix_refl _, hread _⟩
    · simp only at hcut
      simp [ahead, hcut, Turn.bytes]
    · exact kept_nil
  · have hread := readLine_of_scan_some hbuffer hscan
    have hline : Command.delimiter ∉ pending ++ buffer := by simp [hkept.delimiter, hmem]
    refine Or.inr ⟨.discarded (pending ++ buffer), {}, reads, hread reads, rfl, kept_nil, hline,
      fun bytes hbytes => ?_, rfl, List.suffix_refl _, hread _⟩
    cases hbytes
    exact ⟨hlimit, rfl⟩
  · have hread := readLine_of_scan_none hbuffer hscan
    have hline : Kept (pending ++ buffer) := ⟨by simp [hkept.delimiter, hmem], hlimit⟩
    refine (hempty _ hline).of_defers
      ⟨hread reads, ?_, rfl, List.suffix_refl _, hread (Read.solid reads)⟩
    simp [ahead]

-- A call for a line takes a turn or starves, whatever the reads are.
theorem answers (splitter : Splitter) (reads : List Read) (hkept : Kept splitter.pending) :
    splitter.Answers reads := by
  induction reads generalizing splitter with
  | nil => exact .of_empty hkept fun _ hpending => Or.inl (starves_nil hpending)
  | cons read reads ih =>
    refine .of_empty hkept fun pending hpending => ?_
    match read with
    | .failed error => exact Or.inr ⟨_, _, _, call_of_error hpending rfl reads⟩
    | .data [] => exact Or.inr ⟨_, _, _, call_of_error hpending rfl reads⟩
    | .data (byte :: bytes) =>
      have hdefers := defers_fill pending (List.cons_ne_nil byte bytes) reads
      exact (ih ⟨byte :: bytes, pending⟩ hpending).of_defers hdefers

-- The turns of all calls until one starves.
inductive Calls : Splitter → List Read → List Turn → Prop where
  | starved {splitter : Splitter} {reads : List Read} (hstarves : splitter.Starves reads) :
      Calls splitter reads []
  | turn {splitter next : Splitter} {reads rest : List Read} {turn : Turn} {turns : List Turn}
      (hcall : splitter.Call reads turn next rest) (hrest : Calls next rest turns) :
      Calls splitter reads (turn :: turns)

theorem exists_calls (splitter : Splitter) (reads : List Read) (hkept : Kept splitter.pending) :
    ∃ turns, Calls splitter reads turns := by
  rcases answers splitter reads hkept with hstarves | ⟨turn, next, rest, hcall⟩
  · exact ⟨[], .starved hstarves⟩
  · have hshorter := readLine_shorter splitter reads
      (by rw [hcall.readLine_eq]; exact turn.result_ne_starved)
    obtain ⟨turns, hturns⟩ := exists_calls next rest hcall.kept
    exact ⟨turn :: turns, .turn hcall hturns⟩
termination_by (reads.length, splitter.buffer.length)
decreasing_by
  simp only [hcall.readLine_eq] at hshorter
  rw [Prod.lex_def]
  exact hshorter

section Calls

variable {splitter : Splitter} {reads : List Read} {turns : List Turn}

theorem Calls.content (h : Calls splitter reads turns) :
    ∀ turn ∈ turns, Command.delimiter ∉ turn.content := by
  induction h with
  | starved => exact fun _ h => absurd h List.not_mem_nil
  | turn hcall _ ih => exact List.forall_mem_cons.mpr ⟨hcall.content, ih⟩

theorem Calls.errors (h : Calls splitter reads turns) :
    turns.filterMap Turn.error? = reads.filterMap Read.error? := by
  induction h with
  | starved hstarves => exact hstarves.errors.symm
  | @turn _ _ _ _ turn turns hcall _ ih =>
    rw [hcall.errors, ← ih]
    cases turn with
    | _ => rfl

-- A turn that cuts bytes off comes about without the reads that fail.
theorem Call.solid {turn : Turn} {next : Splitter} {rest : List Read}
    (h : splitter.Call reads turn next rest) (hcut : turn.isCut = true) :
    splitter.Call (Read.solid reads) turn next (Read.solid rest) where
  readLine_eq := by rw [h.solid_eq, if_pos hcut]
  ahead_eq := by
    rw [ahead, ahead, Read.stream_solid, Read.stream_solid]
    exact h.ahead_eq
  kept := h.kept
  content := h.content
  discarded := h.discarded
  errors := by
    rw [Read.errors_solid, Read.errors_solid]
    cases turn with
    | failed => cases hcut
    | _ => rfl
  suffix := h.suffix.filter Read.isSolid
  solid_eq := by
    rw [Read.solid_solid, Read.solid_solid]
    exact h.solid_eq

-- A turn that cuts nothing off is left out.
theorem Call.defers_solid {turn : Turn} {next : Splitter} {rest : List Read}
    (h : splitter.Call reads turn next rest) (hcut : turn.isCut = false) :
    splitter.Defers (Read.solid reads) next (Read.solid rest) where
  readLine_eq := by rw [h.solid_eq, hcut]; rfl
  ahead_eq := by
    have hahead := h.ahead_eq
    cases turn with
    | failed =>
      rw [ahead, ahead, Read.stream_solid, Read.stream_solid]
      exact hahead
    | _ => cases hcut
  errors := by rw [Read.errors_solid, Read.errors_solid]
  suffix := h.suffix.filter Read.isSolid
  solid_eq := by
    rw [Read.solid_solid, Read.solid_solid, h.solid_eq, hcut]
    rfl

theorem Calls.of_defers {next : Splitter} {rest : List Read} (h : Calls next rest turns)
    (hdefers : splitter.Defers reads next rest) : Calls splitter reads turns := by
  cases h with
  | starved hstarves => exact .starved (hstarves.of_defers hdefers)
  | turn hcall hrest => exact .turn (hcall.of_defers hdefers) hrest

-- Without the reads that fail the calls cut the same bytes off.
theorem Calls.solid (h : Calls splitter reads turns) :
    Calls splitter (Read.solid reads) (turns.filter Turn.isCut) := by
  induction h with
  | starved hstarves =>
    rw [Read.solid_of_errors hstarves.errors]
    exact .starved hstarves
  | @turn splitter next reads rest turn turns hcall _ ih =>
    by_cases hcut : turn.isCut = true
    · rw [List.filter_cons_of_pos hcut]
      exact .turn (hcall.solid hcut) ih
    · rw [List.filter_cons_of_neg hcut]
      exact ih.of_defers (hcall.defers_solid (Bool.eq_false_iff.mpr hcut))

end Calls

end Splitter

end QuadCan
