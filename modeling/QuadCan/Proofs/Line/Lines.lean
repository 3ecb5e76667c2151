import QuadCan.Proofs.Line.Turns

namespace QuadCan

-- A run without a certain byte that stands in front of this byte ends before it.
theorem append_eq_line {stop : UInt8} {front rest line more : Bytes} (hfront : stop ∉ front)
    (h : front ++ rest = line ++ stop :: more) :
    ∃ tail, line = front ++ tail ∧ rest = tail ++ stop :: more := by
  rcases List.append_eq_append_iff.mp h with ⟨tail, hline, hrest⟩ | ⟨tail, hline, hrest⟩
  · exact ⟨tail, hline, hrest⟩
  · cases tail with
    | nil => exact ⟨[], by simpa using hline.symm, by simpa using hrest.symm⟩
    | cons byte tail =>
      obtain ⟨rfl, -⟩ := List.cons.inj hrest
      exact absurd (by rw [hline]; simp) hfront

namespace Splitter

-- How a call for a line uses up the bytes ahead. A line goes together with its
-- delimiter, a runaway is thrown away, and a failed read leaves everything in place.
inductive Takes : Bytes → Result → Bytes → Prop where
  | line {bytes : Bytes} (rest : Bytes) (hbytes : Command.delimiter ∉ bytes) :
      Takes (bytes ++ Command.delimiter :: rest) (.line bytes) rest
  | runaway {bytes : Bytes} (rest : Bytes) (hbytes : Command.delimiter ∉ bytes)
      (hlimit : limit < bytes.length) : Takes (bytes ++ rest) (.failed runaway) rest
  | failed (bytes : Bytes) (error : StreamError) : Takes bytes (.failed error) bytes
  | starved {bytes : Bytes} (hbytes : Command.delimiter ∉ bytes) : Takes bytes .starved bytes

-- The rule of a single call. It needs no assumption on the reads.
theorem takes_readLine (splitter : Splitter) (reads : List Read) (hkept : Kept splitter.pending) :
    Takes (splitter.ahead reads) (splitter.readLine reads).1
        ((splitter.readLine reads).2.1.ahead (splitter.readLine reads).2.2) ∧
      Kept (splitter.readLine reads).2.1.pending := by
  rcases answers splitter reads hkept with hstarves | ⟨turn, next, rest, hcall⟩
  · rw [hstarves.readLine_eq]
    refine ⟨?_, hstarves.kept⟩
    have hahead : ahead ⟨[], splitter.ahead reads⟩ [] = splitter.ahead reads := by
      simp [ahead, Read.stream]
    rw [hahead]
    exact .starved hstarves.kept.delimiter
  · rw [hcall.readLine_eq, hcall.ahead_eq]
    refine ⟨?_, hcall.kept⟩
    have hcontent := hcall.content
    cases turn with
    | line bytes =>
      rw [Turn.bytes, List.append_assoc, List.singleton_append]
      exact .line _ hcontent
    | discarded bytes => exact .runaway _ hcontent (hcall.discarded bytes rfl).1
    | failed error => exact .failed _ error

-- Lines that a splitter can keep whole.
def Fits (lines : List Bytes) : Prop :=
  ∀ line ∈ lines, Command.delimiter ∉ line ∧ line.length ≤ limit

-- From such lines a call takes the next one and nothing else.
theorem Takes.of_fits {lines : List Bytes} (hlines : Fits lines) {result : Result} {rest : Bytes}
    (h : Takes (Batch.wire lines) result rest) :
    (∃ line more, lines = line :: more ∧ result = .line line ∧ rest = Batch.wire more) ∨
    (∃ error, result = .failed error ∧ rest = Batch.wire lines) ∨
    (lines = [] ∧ result = .starved) := by
  generalize hwire : Batch.wire lines = wire at h
  cases h with
  | @line bytes rest hbytes =>
    cases lines with
    | nil => simp [Batch.wire] at hwire
    | cons line lines =>
      rw [Batch.wire_cons] at hwire
      obtain ⟨hline, -⟩ := hlines line List.mem_cons_self
      obtain ⟨tail, rfl, hrest⟩ := append_eq_line hbytes hwire.symm
      cases tail with
      | nil => exact Or.inl ⟨_, lines, rfl, by simp, List.cons.inj hrest |>.2⟩
      | cons byte tail =>
        obtain ⟨rfl, -⟩ := List.cons.inj hrest
        simp at hline
  | @runaway bytes rest hbytes hlimit =>
    cases lines with
    | nil =>
      obtain ⟨rfl, -⟩ := List.append_eq_nil_iff.mp hwire.symm
      exact absurd hlimit (by decide)
    | cons line lines =>
      rw [Batch.wire_cons] at hwire
      obtain ⟨-, hlength⟩ := hlines line List.mem_cons_self
      obtain ⟨tail, rfl, -⟩ := append_eq_line hbytes hwire.symm
      rw [List.length_append] at hlength
      omega
  | failed => exact Or.inr (Or.inl ⟨_, rfl, rfl⟩)
  | starved hbytes =>
    cases lines with
    | nil => exact Or.inr (Or.inr ⟨rfl, rfl⟩)
    | cons line lines =>
      rw [← hwire, Batch.wire_cons] at hbytes
      simp at hbytes

-- Lines that fit are read one by one, however the stream is cut and whatever
-- fails in between.
theorem lines_results (splitter : Splitter) (reads : List Read)
    (hkept : Kept splitter.pending) {lines : List Bytes} (hlines : Fits lines)
    (h : splitter.ahead reads = Batch.wire lines) :
    (splitter.results reads).1.filterMap Result.line? = lines := by
  fun_induction results splitter reads generalizing lines with
  | case1 splitter reads last rest hread =>
    have htakes := (takes_readLine splitter reads hkept).1
    rw [hread, h] at htakes
    rcases htakes.of_fits hlines with ⟨_, _, _, hresult, _⟩ | ⟨_, hresult, _⟩ | ⟨rfl, _⟩
    · cases hresult
    · cases hresult
    · rfl
  | case2 splitter reads bytes next rest hread more last hmore ih =>
    have ⟨htakes, hnext⟩ := takes_readLine splitter reads hkept
    rw [hread] at htakes hnext
    rw [h] at htakes
    rcases htakes.of_fits hlines with ⟨line, tail, rfl, hresult, hrest⟩ | ⟨_, hresult, _⟩ |
      ⟨_, hresult⟩
    · cases hresult
      have htail := ih hnext (fun other hm => hlines other (List.mem_cons_of_mem _ hm)) hrest
      rw [hmore] at htail
      rw [List.filterMap_cons, Result.line?]
      exact congrArg (bytes :: ·) htail
    · cases hresult
    · cases hresult
  | case3 splitter reads error next rest hread more last hmore ih =>
    have ⟨htakes, hnext⟩ := takes_readLine splitter reads hkept
    rw [hread] at htakes hnext
    rw [h] at htakes
    rcases htakes.of_fits hlines with
      ⟨_, _, _, hresult, _⟩ | ⟨_, hresult, hrest⟩ | ⟨_, hresult⟩
    · cases hresult
    · have htail := ih hnext hlines hrest
      rw [hmore] at htail
      exact htail
    · cases hresult

end Splitter

end QuadCan
