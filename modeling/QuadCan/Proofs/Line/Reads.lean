import QuadCan.Proofs.Line.Stream

namespace QuadCan

namespace Read

-- What a read fails with. A read that yields no bytes counts as a failure.
def error? : Read → Option StreamError
  | data [] => some Splitter.endOfStream
  | data (_ :: _) => none
  | failed error => some error

-- A read that neither failed nor came without bytes.
def isSolid : Read → Bool
  | data (_ :: _) => true
  | _ => false

def solid (reads : List Read) : List Read :=
  reads.filter isSolid

theorem isSolid_eq (read : Read) : read.isSolid = read.error?.isNone := by
  match read with
  | .data [] | .data (_ :: _) | .failed _ => rfl

theorem bytes_of_error {read : Read} {error : StreamError} (h : read.error? = some error) :
    read.bytes = [] := by
  match read with
  | .data [] | .failed _ => rfl
  | .data (_ :: _) => cases h

theorem solid_of_error {read : Read} {error : StreamError} (h : read.error? = some error)
    (reads : List Read) : solid (read :: reads) = solid reads := by
  rw [solid, List.filter_cons_of_neg (by rw [isSolid_eq, h]; exact Bool.false_ne_true), solid]

theorem solid_of_none {read : Read} (h : read.error? = none) (reads : List Read) :
    solid (read :: reads) = read :: solid reads := by
  rw [solid, List.filter_cons_of_pos (by rw [isSolid_eq, h]; rfl), solid]

theorem solid_append (reads more : List Read) : solid (reads ++ more) = solid reads ++ solid more :=
  List.filter_append ..

theorem stream_solid (reads : List Read) : stream (solid reads) = stream reads := by
  induction reads with
  | nil => rfl
  | cons read reads ih =>
    rw [stream_cons]
    cases herror : read.error? with
    | none => rw [solid_of_none herror, stream_cons, ih]
    | some error => rw [solid_of_error herror, bytes_of_error herror, ih, List.nil_append]

theorem errors_solid (reads : List Read) : (solid reads).filterMap error? = [] := by
  refine List.filterMap_eq_nil_iff.mpr fun read hread => ?_
  have hsolid := (List.mem_filter.mp hread).2
  rwa [isSolid_eq, Option.isNone_iff_eq_none] at hsolid

theorem solid_of_errors {reads : List Read} (h : reads.filterMap error? = []) :
    solid reads = reads := by
  refine List.filter_eq_self.mpr fun read hread => ?_
  rw [isSolid_eq, List.filterMap_eq_nil_iff.mp h read hread]
  rfl

theorem solid_solid (reads : List Read) : solid (solid reads) = solid reads :=
  solid_of_errors (errors_solid reads)

theorem chunks_of_le {bytes : Bytes} (h : bytes.length ≤ capacity) : chunks bytes = [bytes] := by
  rw [chunks, dif_pos h]

theorem flatten_chunks (bytes : Bytes) : (chunks bytes).flatten = bytes := by
  fun_induction chunks bytes with
  | case1 bytes hle => exact List.flatten_singleton
  | case2 bytes hgt ih => rw [List.flatten_cons, ih, List.take_append_drop]

theorem length_le_of_mem_chunks {bytes chunk : Bytes} (h : chunk ∈ chunks bytes) :
    chunk.length ≤ capacity := by
  fun_induction chunks bytes with
  | case1 bytes hle =>
    rw [List.mem_singleton.mp h]
    exact hle
  | case2 bytes hgt ih =>
    rcases List.mem_cons.mp h with rfl | hchunk
    · exact List.length_take_le _ _
    · exact ih hchunk

theorem ne_nil_of_mem_chunks {bytes chunk : Bytes} (hbytes : bytes ≠ [])
    (h : chunk ∈ chunks bytes) : chunk ≠ [] := by
  fun_induction chunks bytes with
  | case1 bytes hle =>
    rw [List.mem_singleton.mp h]
    exact hbytes
  | case2 bytes hgt ih =>
    rcases List.mem_cons.mp h with rfl | hchunk
    · intro hnil
      rcases List.take_eq_nil_iff.mp hnil with hzero | hempty
      · cases hzero
      · exact hbytes hempty
    · refine ih (fun hnil => hgt ?_) hchunk
      exact List.drop_eq_nil_iff.mp hnil

theorem stream_append (reads more : List Read) :
    stream (reads ++ more) = stream reads ++ stream more :=
  List.flatMap_append

theorem stream_pieces (read : Read) : stream read.pieces = read.bytes := by
  cases read with
  | data bytes =>
    rw [pieces, stream, List.flatMap_map]
    exact List.flatMap_id.trans (flatten_chunks bytes)
  | failed => rfl

theorem pieces_of_mem_pieces {read piece : Read} (h : piece ∈ read.pieces) :
    piece.pieces = [piece] := by
  cases read with
  | data bytes =>
    obtain ⟨chunk, hchunk, rfl⟩ := List.mem_map.mp h
    rw [pieces, chunks_of_le (length_le_of_mem_chunks hchunk)]
    rfl
  | failed =>
    rw [List.mem_singleton.mp h]
    rfl

theorem pieces_of_error {read : Read} {error : StreamError} (h : read.error? = some error) :
    read.pieces = [read] := by
  match read with
  | .data [] => rw [pieces, chunks_of_le (Nat.zero_le _)]; rfl
  | .data (_ :: _) => cases h
  | .failed _ => rfl

theorem error?_of_mem_pieces {read piece : Read} (hread : read.error? = none)
    (h : piece ∈ read.pieces) : piece.error? = none := by
  match read with
  | .data (byte :: bytes) =>
    obtain ⟨chunk, hchunk, rfl⟩ := List.mem_map.mp h
    obtain ⟨_, _, rfl⟩ :=
      List.exists_cons_of_ne_nil (ne_nil_of_mem_chunks (List.cons_ne_nil _ _) hchunk)
    rfl
  | .data [] | .failed _ => cases hread

-- The reads as they come through a buffer of limited size.
def cut (reads : List Read) : List Read :=
  reads.flatMap pieces

theorem cut_cons (read : Read) (reads : List Read) :
    cut (read :: reads) = read.pieces ++ cut reads :=
  List.flatMap_cons

theorem stream_cut (reads : List Read) : stream (cut reads) = stream reads := by
  induction reads with
  | nil => rfl
  | cons read reads ih => rw [cut_cons, stream_append, stream_pieces, ih, stream_cons]

theorem errors_cut (reads : List Read) :
    (cut reads).filterMap error? = reads.filterMap error? := by
  induction reads with
  | nil => rfl
  | cons read reads ih =>
    rw [cut_cons, List.filterMap_append, ih]
    cases herror : read.error? with
    | none =>
      rw [List.filterMap_cons_none herror, List.filterMap_eq_nil_iff.mpr fun _ hpiece =>
        error?_of_mem_pieces herror hpiece, List.nil_append]
    | some error => rw [pieces_of_error herror, ← List.filterMap_append, List.singleton_append]

theorem solid_cut (reads : List Read) : solid (cut reads) = cut (solid reads) := by
  induction reads with
  | nil => rfl
  | cons read reads ih =>
    cases herror : read.error? with
    | none =>
      have hpieces : solid read.pieces = read.pieces :=
        solid_of_errors (List.filterMap_eq_nil_iff.mpr fun _ => error?_of_mem_pieces herror)
      rw [cut_cons, solid_append, hpieces, ih, solid_of_none herror, cut_cons]
    | some error =>
      rw [cut_cons, pieces_of_error herror, List.singleton_append, solid_of_error herror,
        solid_of_error herror, ih]

theorem cut_eq_self {reads : List Read} (h : ∀ read ∈ reads, read.pieces = [read]) :
    cut reads = reads := by
  induction reads with
  | nil => rfl
  | cons read reads ih =>
    obtain ⟨hread, hmore⟩ := List.forall_mem_cons.mp h
    rw [cut_cons, hread, ih hmore, List.singleton_append]

-- What is left of reads that came through the buffer fits into it.
theorem cut_of_suffix {reads rest : List Read} (h : rest <:+ cut reads) : cut rest = rest := by
  refine cut_eq_self fun read hread => ?_
  obtain ⟨_, -, hpiece⟩ := List.mem_flatMap.mp (h.subset hread)
  exact pieces_of_mem_pieces hpiece

end Read

end QuadCan
