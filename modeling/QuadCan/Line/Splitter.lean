import QuadCan.Command
import QuadCan.Fault

namespace QuadCan

-- What one read of a stream yields. No bytes at all mean the end of the stream.
inductive Read where
  | data (bytes : Bytes)
  | failed (error : StreamError)
deriving DecidableEq, Repr

namespace Read

-- The most bytes that one read yields.
def capacity : Nat := 8192

-- Runs of bytes that one read yields.
def chunks (bytes : Bytes) : List Bytes :=
  if _h : bytes.length ≤ capacity then [bytes]
  else bytes.take capacity :: chunks (bytes.drop capacity)
termination_by bytes.length
decreasing_by simp only [List.length_drop, capacity] at *; omega

-- More bytes than one read yields take several.
def pieces : Read → List Read
  | data bytes => (chunks bytes).map data
  | failed error => [failed error]

end Read

-- Cuts a stream of bytes into lines. The buffer holds what was read and not
-- yet looked at, and the other part the line that has begun.
structure Splitter where
  buffer : Bytes := []
  pending : Bytes := []
deriving DecidableEq, Repr

namespace Splitter

-- The longest part of a line that is kept while its end is not in sight.
def limit : Nat := 512

-- How a call for a line ends. A starved call has used up all reads.
inductive Result where
  | line (bytes : Bytes)
  | failed (error : StreamError)
  | starved
deriving DecidableEq, Repr

def endOfStream : StreamError :=
  ⟨.unexpectedEof, some "serial port closed"⟩

def runaway : StreamError :=
  ⟨.invalidData, some "line exceeds maximum length"⟩

-- Looks through the buffer for the end of the line. Without it the whole buffer
-- joins the line, and a line that grew too long is thrown away.
def scan (splitter : Splitter) : Option Result × Splitter :=
  match splitter.buffer.dropWhile (· != Command.delimiter) with
  | _ :: rest =>
      (some (.line (splitter.pending ++ splitter.buffer.takeWhile (· != Command.delimiter))),
        ⟨rest, []⟩)
  | [] =>
      if limit < splitter.pending.length + splitter.buffer.length then
        (some (.failed runaway), ⟨[], []⟩)
      else (none, ⟨[], splitter.pending ++ splitter.buffer⟩)

-- Reads until a line ends. The buffer is empty.
def refill (splitter : Splitter) : List Read → Result × Splitter × List Read
  | [] => (.starved, splitter, [])
  | .failed error :: reads => (.failed error, splitter, reads)
  | .data [] :: reads => (.failed endOfStream, splitter, reads)
  | .data (byte :: bytes) :: reads =>
      match scan { splitter with buffer := byte :: bytes } with
      | (some result, splitter) => (result, splitter, reads)
      | (none, splitter) => refill splitter reads

-- The next line, from the buffer and then from the stream. A failed read leaves
-- the line that has begun for the next call.
def readLine (splitter : Splitter) (reads : List Read) : Result × Splitter × List Read :=
  match splitter.buffer with
  | [] => refill splitter reads
  | _ :: _ =>
      match scan splitter with
      | (some result, splitter) => (result, splitter, reads)
      | (none, splitter) => refill splitter reads

theorem length_scan_lt (splitter : Splitter) (result : Result) (rest : Splitter)
    (hbuffer : splitter.buffer ≠ []) (h : splitter.scan = (some result, rest)) :
    rest.buffer.length < splitter.buffer.length := by
  unfold scan at h
  split at h
  next byte after he =>
    cases h
    have hl := congrArg List.length
      (List.takeWhile_append_dropWhile (p := (· != Command.delimiter)) (l := splitter.buffer))
    simp only [he, List.length_append, List.length_cons] at hl
    show after.length < _
    omega
  next =>
    split at h
    · cases h
      exact List.length_pos_iff.mpr hbuffer
    · cases h

theorem length_refill_lt (splitter : Splitter) (reads : List Read)
    (h : (splitter.refill reads).1 ≠ .starved) :
    (splitter.refill reads).2.2.length < reads.length := by
  induction reads generalizing splitter with
  | nil => exact absurd rfl h
  | cons read reads ih =>
    cases read with
    | failed error => simp [refill]
    | data bytes =>
      cases bytes with
      | nil => simp [refill]
      | cons byte bytes =>
        unfold refill at h ⊢
        split
        next => simp
        next he =>
          rw [he] at h
          have := ih _ h
          simp only [List.length_cons]
          omega

-- A call that does not starve uses up a read or a part of the buffer.
theorem readLine_shorter (splitter : Splitter) (reads : List Read)
    (h : (splitter.readLine reads).1 ≠ .starved) :
    (splitter.readLine reads).2.2.length < reads.length ∨
      (splitter.readLine reads).2.2.length = reads.length ∧
        (splitter.readLine reads).2.1.buffer.length < splitter.buffer.length := by
  unfold readLine at h ⊢
  split
  next he =>
    simp only [he] at h
    exact Or.inl (length_refill_lt splitter reads h)
  next byte bytes he =>
    simp only [he] at h
    split
    next hs =>
      exact Or.inr ⟨rfl, length_scan_lt _ _ _ (by simp [he]) hs⟩
    next hs =>
      rw [hs] at h
      exact Or.inl (length_refill_lt _ reads h)

-- All calls until one starves.
def results (splitter : Splitter) (reads : List Read) : List Result × Splitter :=
  match _h : splitter.readLine reads with
  | (.starved, splitter, _) => ([], splitter)
  | (.line bytes, next, rest) =>
      let (more, last) := results next rest
      (.line bytes :: more, last)
  | (.failed error, next, rest) =>
      let (more, last) := results next rest
      (.failed error :: more, last)
termination_by (reads.length, splitter.buffer.length)
decreasing_by
  all_goals
    have := readLine_shorter splitter reads (by simp [_h])
    simp only [_h] at this
    simp only [Prod.lex_def]
    omega

def Result.line? : Result → Option Bytes
  | line bytes => some bytes
  | _ => none

end Splitter

end QuadCan
