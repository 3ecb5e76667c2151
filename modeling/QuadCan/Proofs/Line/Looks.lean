import Mathlib.Data.Stream.Init
import QuadCan.Proofs.Line.Turns

namespace QuadCan

namespace Read

-- The bytes of each read fit into the buffer.
def Narrow (reads : List Read) : Prop :=
  ∀ read ∈ reads, read.bytes.length ≤ capacity

theorem narrow_cut (reads : List Read) : Narrow (cut reads) := by
  intro piece hpiece
  obtain ⟨read, -, hpiece⟩ := List.mem_flatMap.mp hpiece
  cases read with
  | data bytes =>
    obtain ⟨chunk, hchunk, rfl⟩ := List.mem_map.mp hpiece
    exact length_le_of_mem_chunks hchunk
  | failed error =>
    rw [List.mem_singleton.mp hpiece]
    exact Nat.zero_le _

-- A read that does not fail brings at least one byte.
theorem length_le_length_stream {reads : List Read} (h : reads.filterMap error? = []) :
    reads.length ≤ (stream reads).length := by
  induction reads with
  | nil => exact Nat.le_refl _
  | cons read reads ih =>
    match read with
    | .data (byte :: line) =>
      have hrest := ih h
      have hbytes : (data (byte :: line)).bytes.length = line.length + 1 := rfl
      rw [stream_cons, List.length_append, hbytes, List.length_cons]
      omega
    | .data [] => cases h
    | .failed _ => cases h

end Read

namespace Splitter

-- One turn of the loop of a call. An empty buffer is filled by a read, and then it is looked
-- through. Without a result the call goes on with what is left.
def look (splitter : Splitter) (reads : List Read) : Option Result × Splitter × List Read :=
  match splitter.buffer, reads with
  | _ :: _, reads => (splitter.scan.1, splitter.scan.2, reads)
  | [], [] => (some .starved, splitter, [])
  | [], .failed error :: reads => (some (.failed error), splitter, reads)
  | [], .data [] :: reads => (some (.failed endOfStream), splitter, reads)
  | [], .data (byte :: bytes) :: reads =>
      let filled := { splitter with buffer := byte :: bytes }
      (filled.scan.1, filled.scan.2, reads)

-- A call whose loop may take no more than the given number of turns.
def readWithin (splitter : Splitter) (reads : List Read) :
    Nat → Option (Result × Splitter × List Read)
  | 0 => none
  | looks + 1 =>
      match splitter.look reads with
      | (some result, next, rest) => some (result, next, rest)
      | (none, next, rest) => next.readWithin rest looks

-- The bytes that a look goes through: what is left in the buffer, or what one read brings.
inductive Fills (splitter : Splitter) : List Read → Bytes → List Read → Prop where
  | left {reads : List Read} (hbuffer : splitter.buffer ≠ []) :
      Fills splitter reads splitter.buffer reads
  | read {bytes : Bytes} {rest : List Read} (hbuffer : splitter.buffer = [])
      (hbytes : bytes ≠ []) :
      Fills splitter (.data bytes :: rest) bytes rest

-- All that a look can do.
inductive Looks (splitter : Splitter) (reads : List Read) :
    Option Result → Splitter → List Read → Prop where
  | idle {result : Result} (hbuffer : splitter.buffer = []) (hline : result.line? = none) :
      Looks splitter reads (some result) splitter reads.tail
  | line {front after : Bytes} {rest : List Read}
      (hfills : Fills splitter reads (front ++ Command.delimiter :: after) rest) :
      Looks splitter reads (some (.line (splitter.pending ++ front))) ⟨after, []⟩ rest
  | runaway {bytes : Bytes} {rest : List Read} (hfills : Fills splitter reads bytes rest) :
      Looks splitter reads (some (.failed runaway)) {} rest
  | kept {bytes : Bytes} {rest : List Read} (hfills : Fills splitter reads bytes rest)
      (hbytes : Command.delimiter ∉ bytes)
      (hlimit : (splitter.pending ++ bytes).length ≤ limit) :
      Looks splitter reads none ⟨[], splitter.pending ++ bytes⟩ rest

variable {splitter next : Splitter} {reads rest : List Read} {result : Result}

theorem Fills.looks {bytes : Bytes} (h : Fills splitter reads bytes rest) :
    Looks splitter reads (scan ⟨bytes, splitter.pending⟩).1
      (scan ⟨bytes, splitter.pending⟩).2 rest := by
  rcases scan_cases ⟨bytes, splitter.pending⟩ with ⟨front, after, -, hbytes, hscan⟩ |
    ⟨-, -, hscan⟩ | ⟨hbytes, hlimit, hscan⟩
  · obtain rfl := hbytes
    rw [hscan]
    exact .line h
  · rw [hscan]
    exact .runaway h
  · rw [hscan]
    exact .kept h hbytes hlimit

theorem looks_look (splitter : Splitter) (reads : List Read) :
    Looks splitter reads (splitter.look reads).1 (splitter.look reads).2.1
      (splitter.look reads).2.2 := by
  obtain ⟨buffer, pending⟩ := splitter
  match buffer, reads with
  | _ :: _, _ => exact (Fills.left (List.cons_ne_nil _ _)).looks
  | [], [] => exact .idle rfl rfl
  | [], .failed _ :: _ => exact .idle rfl rfl
  | [], .data [] :: _ => exact .idle rfl rfl
  | [], .data (_ :: _) :: _ => exact (Fills.read rfl (List.cons_ne_nil _ _)).looks

theorem looks_of_eq {outcome : Option Result} (h : splitter.look reads = (outcome, next, rest)) :
    Looks splitter reads outcome next rest := by
  have hlooks := looks_look splitter reads
  rwa [h] at hlooks

theorem Fills.ne_nil {bytes : Bytes} (h : Fills splitter reads bytes rest) : bytes ≠ [] := by
  cases h with
  | left hbuffer => exact hbuffer
  | read _ hbytes => exact hbytes

private theorem readLine_of_scan (hbuffer : splitter.buffer ≠ []) (reads : List Read) :
    splitter.readLine reads =
      splitter.scan.1.elim (splitter.scan.2.readLine reads) (·, splitter.scan.2, reads) := by
  rcases scan_cases splitter with ⟨_, _, -, -, hscan⟩ | ⟨-, -, hscan⟩ | ⟨-, -, hscan⟩
  · rw [readLine_of_scan_some hbuffer hscan, hscan]
    rfl
  · rw [readLine_of_scan_some hbuffer hscan, hscan]
    rfl
  · rw [readLine_of_scan_none hbuffer hscan, hscan]
    rfl

-- A call is a look, and a call with what is left where this has no result.
theorem readLine_eq_look (splitter : Splitter) (reads : List Read) :
    splitter.readLine reads = (splitter.look reads).1.elim
      ((splitter.look reads).2.1.readLine (splitter.look reads).2.2)
      (·, (splitter.look reads).2) := by
  obtain ⟨buffer, pending⟩ := splitter
  match buffer, reads with
  | _ :: _, reads => exact readLine_of_scan (List.cons_ne_nil _ _) reads
  | [], [] => rfl
  | [], .failed _ :: _ => rfl
  | [], .data [] :: _ => rfl
  | [], .data (byte :: bytes) :: reads =>
    exact @readLine_of_scan ⟨byte :: bytes, pending⟩ (List.cons_ne_nil _ _) reads

-- The part that is kept grows with each look that has no result.
theorem Looks.longer (h : Looks splitter reads none next rest) :
    splitter.pending.length < next.pending.length ∧ next.pending.length ≤ limit := by
  cases h with
  | kept hfills hbytes hlimit =>
    refine ⟨?_, hlimit⟩
    have hpos := List.length_pos_iff.mpr hfills.ne_nil
    rw [List.length_append]
    omega

-- So the loop comes to its end before there is no more room.
theorem readWithin_eq_readLine {looks : Nat} (hlimit : splitter.pending.length ≤ limit)
    (hlooks : limit + 1 - splitter.pending.length ≤ looks) :
    splitter.readWithin reads looks = some (splitter.readLine reads) := by
  induction looks generalizing splitter reads with
  | zero => omega
  | succ looks ih =>
    rw [readWithin, readLine_eq_look]
    rcases hlook : splitter.look reads with ⟨_ | result, next, rest⟩
    · have hlonger := (looks_of_eq hlook).longer
      exact ih hlonger.2 (by omega)
    · rfl

-- The state between two calls: the part of a line that was kept, and the rest of a full buffer.
structure Sized (splitter : Splitter) : Prop where
  kept : Kept splitter.pending
  buffer : splitter.buffer.length ≤ Read.capacity

theorem Fills.sized {bytes : Bytes} (h : Fills splitter reads bytes rest) (hsized : Sized splitter)
    (hreads : Read.Narrow reads) : bytes.length ≤ Read.capacity ∧ Read.Narrow rest := by
  cases h with
  | left => exact ⟨hsized.buffer, hreads⟩
  | read => exact List.forall_mem_cons.mp hreads

-- What a look leaves is no larger, and a line that it finds ends in the buffer.
theorem Looks.sized {outcome : Option Result} (h : Looks splitter reads outcome next rest)
    (hsized : Sized splitter) (hreads : Read.Narrow reads) :
    Sized next ∧ Read.Narrow rest ∧
      ∀ bytes, outcome = some (.line bytes) → bytes.length ≤ limit + (Read.capacity - 1) := by
  cases h with
  | idle hbuffer hline =>
    refine ⟨hsized, fun read hread => hreads read (List.mem_of_mem_tail hread), ?_⟩
    rintro bytes hbytes
    cases hbytes
    cases hline
  | @line front after _ hfills =>
    obtain ⟨hlength, hrest⟩ := hfills.sized hsized hreads
    have hkept := hsized.kept.limit
    rw [List.length_append, List.length_cons] at hlength
    refine ⟨⟨kept_nil, by simp only; omega⟩, hrest, ?_⟩
    rintro bytes hbytes
    cases hbytes
    rw [List.length_append]
    omega
  | runaway hfills =>
    exact ⟨⟨kept_nil, Nat.zero_le _⟩, (hfills.sized hsized hreads).2, nofun⟩
  | kept hfills hbytes hlimit =>
    have hline : Command.delimiter ∉ splitter.pending ++ _ :=
      List.not_mem_append hsized.kept.delimiter hbytes
    exact ⟨⟨⟨hline, hlimit⟩, Nat.zero_le _⟩, (hfills.sized hsized hreads).2, nofun⟩

-- The same for the looks of a whole call.
theorem sized_readWithin {looks : Nat} (hsized : Sized splitter) (hreads : Read.Narrow reads)
    (h : splitter.readWithin reads looks = some (result, next, rest)) :
    Sized next ∧
      ∀ bytes, result = .line bytes → bytes.length ≤ limit + (Read.capacity - 1) := by
  induction looks generalizing splitter reads with
  | zero => cases h
  | succ looks ih =>
    rw [readWithin] at h
    rcases hlook : splitter.look reads with ⟨_ | found, left, more⟩
    · rw [hlook] at h
      obtain ⟨hleft, hmore, -⟩ := (looks_of_eq hlook).sized hsized hreads
      exact ih hleft hmore h
    · rw [hlook] at h
      cases h
      obtain ⟨hnext, -, hline⟩ := (looks_of_eq hlook).sized hsized hreads
      exact ⟨hnext, fun bytes hbytes => hline bytes (congrArg some hbytes)⟩

theorem sized_readLine (hsized : Sized splitter) (hreads : Read.Narrow reads) :
    Sized (splitter.readLine reads).2.1 ∧ ∀ bytes, (splitter.readLine reads).1 = .line bytes →
      bytes.length ≤ limit + (Read.capacity - 1) :=
  sized_readWithin hsized hreads (readWithin_eq_readLine hsized.kept.limit (Nat.le_refl _))

-- The states that calls for a line bring about, whatever the port yields to each of them.
inductive Reachable : Splitter → Prop where
  | fresh : Reachable {}
  | call {splitter : Splitter} (h : Reachable splitter) (reads : List Read) :
      Reachable (splitter.readLine (Read.cut reads)).2.1

theorem Reachable.sized (h : Reachable splitter) : Sized splitter := by
  induction h with
  | fresh => exact ⟨kept_nil, Nat.zero_le _⟩
  | call _ reads ih => exact (sized_readLine ih (Read.narrow_cut reads)).1

-- And each part of a line that can be kept is kept by some call.
theorem reachable_of_kept {pending : Bytes} (h : Kept pending) : Reachable ⟨[], pending⟩ := by
  by_cases hpending : pending = []
  · subst hpending
    exact .fresh
  let reads : List Read := [.data pending, .failed ⟨.timedOut, none⟩]
  have hcut : Read.cut reads = reads := by
    refine Read.cut_eq_self (List.forall_mem_cons.mpr ⟨?_, List.forall_mem_singleton.mpr rfl⟩)
    rw [Read.pieces, Read.chunks_of_le (Nat.le_trans h.limit (by decide))]
    rfl
  have hscan : scan ⟨pending, []⟩ = (none, ⟨[], pending⟩) := by
    rcases scan_cases ⟨pending, []⟩ with
      ⟨front, after, -, hbytes, -⟩ | ⟨-, hlimit, -⟩ | ⟨-, -, hscan⟩
    · obtain rfl := hbytes
      exact absurd (List.mem_append_right front List.mem_cons_self) h.delimiter
    · exact absurd h.limit (Nat.not_le_of_lt hlimit)
    · exact hscan
  have hread : readLine {} reads = (.failed ⟨.timedOut, none⟩, ⟨[], pending⟩, []) :=
    (defers_fill [] hpending _).readLine_eq.trans (readLine_of_scan_none hpending hscan _)
  have hcall := Reachable.fresh.call reads
  rwa [hcut, hread] at hcall

-- A call that waits for a read has kept all bytes of the reads before.
theorem Starves.length_reads_le (h : splitter.Starves reads) :
    splitter.pending.length + reads.length ≤ limit := by
  have hreads := Read.length_le_length_stream h.errors
  have hkept := h.kept.limit
  rw [ahead, List.length_append, List.length_append] at hkept
  omega

-- A look does not depend on the reads that it does not use.
theorem look_append (h : (splitter.look reads).1 ≠ some .starved) (more : List Read) :
    splitter.look (reads ++ more) =
      ((splitter.look reads).1, (splitter.look reads).2.1, (splitter.look reads).2.2 ++ more) := by
  obtain ⟨buffer, pending⟩ := splitter
  match buffer, reads with
  | _ :: _, _ => rfl
  | [], [] => exact absurd rfl h
  | [], .failed _ :: _ => rfl
  | [], .data [] :: _ => rfl
  | [], .data (_ :: _) :: _ => rfl

theorem readWithin_append {looks : Nat} (hresult : result ≠ .starved)
    (h : splitter.readWithin reads looks = some (result, next, rest)) (more : List Read) :
    splitter.readWithin (reads ++ more) looks = some (result, next, rest ++ more) := by
  induction looks generalizing splitter reads with
  | zero => cases h
  | succ looks ih =>
    rw [readWithin] at h ⊢
    rcases hlook : splitter.look reads with ⟨_ | found, left, after⟩
    · rw [hlook] at h
      rw [look_append (by rw [hlook]; nofun), hlook]
      exact ih h
    · rw [hlook] at h
      cases h
      rw [look_append (by rw [hlook]; exact fun heq => hresult (Option.some.inj heq)), hlook]

-- The call of a port that never stops to yield. So many of its reads are enough for an answer, and
-- those that are not used up stay for later.
theorem exists_answer (hkept : Kept splitter.pending) (port : Stream' Read) :
    ∃ used ≤ limit + 1 - splitter.pending.length, ∃ result next, result ≠ .starved ∧
      ∀ count ≥ limit + 1 - splitter.pending.length,
        splitter.readLine (port.take count) = (result, next, (port.take count).drop used) := by
  generalize hlooks : limit + 1 - splitter.pending.length = looks
  have hwithin (reads : List Read) :
      splitter.readWithin reads looks = some (splitter.readLine reads) :=
    readWithin_eq_readLine hkept.limit (Nat.le_of_eq hlooks)
  rcases answers splitter (port.take looks) hkept with hstarves | ⟨turn, next, rest, hcall⟩
  · have hlength := hstarves.length_reads_le
    rw [Stream'.length_take] at hlength
    omega
  · have hrest := List.suffix_iff_eq_drop.mp hcall.suffix
    have hresult := turn.result_ne_starved
    refine ⟨(port.take looks).length - rest.length, ?_, turn.result, next, hresult,
      fun count hcount => ?_⟩
    · rw [Stream'.length_take]
      exact Nat.sub_le _ _
    · obtain ⟨more, rfl⟩ := Nat.exists_eq_add_of_le hcount
      have hanswer := readWithin_append hresult
        ((hwithin _).trans (congrArg some hcall.readLine_eq)) ((port.drop looks).take more)
      rw [Stream'.take_add, List.drop_append_of_le_length (Nat.sub_le _ _), ← hrest]
      exact Option.some.inj ((hwithin _).symm.trans hanswer)

-- Whatever a port yields, a call keeps no more than the limit of an unfinished line, and each of
-- its looks brings it closer to that limit. A port that never stops to yield has its answer then,
-- and a line is no longer than what was kept and a full buffer with its end.
theorem readLine_within_limit (h : Reachable splitter) :
    Sized splitter ∧
    (∀ reads, splitter.readWithin reads (limit + 1 - splitter.pending.length) =
      some (splitter.readLine reads)) ∧
    (∀ port : Stream' Read, ∃ used ≤ limit + 1 - splitter.pending.length, ∃ result next,
      result ≠ .starved ∧ ∀ count ≥ limit + 1 - splitter.pending.length,
        splitter.readLine (port.take count) = (result, next, (port.take count).drop used)) ∧
    ∀ reads bytes, (splitter.readLine (Read.cut reads)).1 = .line bytes →
      bytes.length ≤ limit + (Read.capacity - 1) := by
  have hsized := h.sized
  exact ⟨hsized, fun reads => readWithin_eq_readLine hsized.kept.limit (Nat.le_refl _),
    exists_answer hsized.kept, fun reads => (sized_readLine hsized (Read.narrow_cut reads)).2⟩

-- A part of 510 bytes was kept over a timeout, and from then on there is one byte to a read. The
-- third one is one too many.
theorem readLine_within_limit_trickle :
    let splitter : Splitter := ⟨[], List.replicate 510 0x41⟩
    let reads := List.replicate 3 (Read.data [0x41])
    Reachable splitter ∧ splitter.readWithin reads 3 = some (.failed runaway, {}, []) ∧
      splitter.readWithin reads 2 = none := by
  intro splitter reads
  have hlength : splitter.pending.length = 510 := List.length_replicate
  have hreachable : Reachable splitter := by
    refine reachable_of_kept ⟨fun hm => ?_, by rw [hlength]; decide⟩
    exact absurd (List.eq_of_mem_replicate hm) (by decide)
  have hwithin := (readLine_within_limit hreachable).2.1 reads
  rw [hlength] at hwithin
  exact ⟨hreachable, hwithin.trans (by decide +kernel), by decide +kernel⟩

end Splitter

end QuadCan
