import QuadCan.Line.Splitter
import QuadCan.Proofs.Batch.Wire

namespace QuadCan

namespace Read

def bytes : Read → Bytes
  | data bytes => bytes
  | failed _ => []

-- The bytes that a port yields, however they are cut into reads.
def stream (reads : List Read) : Bytes :=
  reads.flatMap bytes

theorem stream_cons (read : Read) (reads : List Read) :
    stream (read :: reads) = read.bytes ++ stream reads :=
  List.flatMap_cons

end Read

namespace Splitter

-- What is still to be cut into lines: the line that has begun, the rest of the
-- buffer and what the port will yield.
def ahead (splitter : Splitter) (reads : List Read) : Bytes :=
  splitter.pending ++ splitter.buffer ++ Read.stream reads

private theorem cut_buffer (buffer : Bytes) :
    (buffer.dropWhile (· != Command.delimiter) = [] ∧ Command.delimiter ∉ buffer) ∨
    ∃ rest, buffer.dropWhile (· != Command.delimiter) = Command.delimiter :: rest ∧
      Command.delimiter ∉ buffer.takeWhile (· != Command.delimiter) ∧
      buffer = buffer.takeWhile (· != Command.delimiter) ++ Command.delimiter :: rest := by
  induction buffer with
  | nil => exact Or.inl ⟨rfl, by simp⟩
  | cons byte buffer ih =>
    by_cases hbyte : byte = Command.delimiter
    · subst hbyte
      exact Or.inr ⟨buffer, by simp⟩
    · rcases ih with ⟨hdrop, hmem⟩ | ⟨rest, hdrop, hmem, hbuffer⟩
      · exact Or.inl ⟨by simp [hbyte, hdrop], by simp [Ne.symm hbyte, hmem]⟩
      · refine Or.inr ⟨rest, by simp [hbyte, hdrop], by simp [hbyte, Ne.symm hbyte, hmem], ?_⟩
        simpa [hbyte] using hbuffer

-- A scan finds the end of the line, or it throws the line away, or it keeps the line for later.
theorem scan_cases (splitter : Splitter) :
    (∃ front rest, Command.delimiter ∉ front ∧
      splitter.buffer = front ++ Command.delimiter :: rest ∧
      splitter.scan = (some (.line (splitter.pending ++ front)), ⟨rest, []⟩)) ∨
    (Command.delimiter ∉ splitter.buffer ∧
      limit < (splitter.pending ++ splitter.buffer).length ∧
      splitter.scan = (some (.failed runaway), ⟨[], []⟩)) ∨
    (Command.delimiter ∉ splitter.buffer ∧
      (splitter.pending ++ splitter.buffer).length ≤ limit ∧
      splitter.scan = (none, ⟨[], splitter.pending ++ splitter.buffer⟩)) := by
  unfold scan
  rcases cut_buffer splitter.buffer with ⟨hdrop, hmem⟩ | ⟨rest, hdrop, hmem, hbuffer⟩
  · rw [hdrop, List.length_append]
    by_cases hlimit : limit < splitter.pending.length + splitter.buffer.length
    · exact Or.inr (Or.inl ⟨hmem, hlimit, if_pos hlimit⟩)
    · exact Or.inr (Or.inr ⟨hmem, Nat.le_of_not_lt hlimit, if_neg hlimit⟩)
  · rw [hdrop]
    exact Or.inl ⟨_, rest, hmem, hbuffer, rfl⟩

end Splitter

end QuadCan
