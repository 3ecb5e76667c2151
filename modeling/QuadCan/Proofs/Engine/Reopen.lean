import QuadCan.Proofs.Engine.Conservation

namespace QuadCan

-- Command number n, counted in the order of acceptance, was handed over.
def Journal.Handed (journal : Journal) (n : Nat) : Prop :=
  journal.fates[n]?.map Prod.snd = some .handed

instance (journal : Journal) (n : Nat) : Decidable (journal.Handed n) :=
  inferInstanceAs (Decidable (_ = _))

theorem Journal.Handed.lt {journal : Journal} {n : Nat} (h : journal.Handed n) :
    n < journal.fates.length := by
  rcases Nat.lt_or_ge n journal.fates.length with hlt | hge
  · exact hlt
  · rw [Handed, List.getElem?_eq_none hge] at h
    cases h

-- A link that is closed has no write loop. The converse fails, as the loop ends
-- before the close returns.
def Outflow.Quiet (outflow : Outflow) : Prop :=
  outflow.phase = .closed → outflow.writer = .ended

-- A write loop that has not ended shows that the link is not closed.
private theorem quiet_of_writer {before after : Outflow} {writer : Writer} (h : before.Quiet)
    (hwriter : before.writer = writer) (hrunning : writer ≠ .ended)
    (hphase : after.phase = before.phase) : after.Quiet := by
  intro hclosed
  rw [hphase] at hclosed
  rw [h hclosed] at hwriter
  exact absurd hwriter.symm hrunning

theorem Outflow.Move.quiet {before after : Outflow} (hmove : Move before after)
    (h : before.Quiet) : after.Quiet := by
  cases hmove with
  | note => exact h
  | turn hended => exact hended
  | begin => exact nofun
  | wait _ hwriter => exact quiet_of_writer h hwriter nofun rfl
  | retake _ hwriter => exact quiet_of_writer h hwriter nofun rfl
  | receive hwriter => exact quiet_of_writer h hwriter nofun rfl
  | confirm _ hwriter => exact quiet_of_writer h hwriter nofun rfl
  | join hwriter => exact quiet_of_writer h hwriter nofun rfl
  | overflow hwriter => exact quiet_of_writer h hwriter nofun rfl
  | ship hwriter => exact quiet_of_writer h hwriter nofun rfl
  | settle hwriter => exact quiet_of_writer h hwriter nofun rfl
  | stop => exact fun _ => rfl
  | abandon => exact fun _ => rfl

theorem Outflow.invariant_quiet : Invariant Quiet where
  move := Move.quiet
  accept _ h := h
  retire h := h

namespace Engine

variable {engine : Engine} {n : Nat}

theorem writer_of_closed (config : Config) (steps : List Step)
    (hclosed : ((fresh config).run steps).phase = .closed) :
    ((fresh config).run steps).writer = .ended := by
  have hfresh : (fresh config).outflow.Quiet := fun _ => rfl
  exact invariant_run Outflow.invariant_quiet hfresh steps hclosed

theorem fates_prefix_run (engine : Engine) (steps : List Step) :
    engine.hub.journal.fates <+: (engine.run steps).hub.journal.fates := by
  obtain ⟨events, hjournal, -⟩ := exchanges_run engine steps
  rw [outflow_journal, outflow_journal] at hjournal
  rw [hjournal, Journal.fates_append]
  exact List.prefix_append _ _

theorem accepted_prefix_run (engine : Engine) (steps : List Step) :
    engine.hub.journal.accepted <+: (engine.run steps).hub.journal.accepted := by
  obtain ⟨events, hjournal, -⟩ := exchanges_run engine steps
  rw [outflow_journal, outflow_journal] at hjournal
  rw [hjournal, Journal.accepted_append]
  exact List.prefix_append _ _

-- What has become of a command stays so.
theorem handed_run_iff (engine : Engine) (steps : List Step)
    (h : n < engine.hub.journal.fates.length) :
    (engine.run steps).hub.journal.Handed n ↔ engine.hub.journal.Handed n := by
  obtain ⟨rest, hrest⟩ := fates_prefix_run engine steps
  rw [Journal.Handed, Journal.Handed, ← hrest, List.getElem?_append_left h]

-- In a closed link what has not left yet waits in the queue.
theorem length_accepted_of_closed (config : Config) (steps : List Step)
    (hclosed : ((fresh config).run steps).phase = .closed) :
    ((fresh config).run steps).hub.journal.accepted.length =
      ((fresh config).run steps).hub.journal.fates.length +
        ((fresh config).run steps).hub.pending.length := by
  have hended := writer_of_closed config steps hclosed
  rw [accepted_run, Outflow.held, outflow_writer, outflow_pending, hended, List.length_append,
    List.length_map]
  rfl

-- The write loop of an open link looks for the next command.
structure Ready (engine : Engine) (queue : List Command) : Prop where
  phase : engine.phase = .running
  writer : engine.writer = .idle none
  pending : engine.hub.pending = queue

-- One command is written in a batch of its own.
def round : List Step := [.resume, .receive, .confirm, .ship, .write .written]

theorem Ready.round {command : Command} {queue : List Command}
    (h : engine.Ready (command :: queue)) :
    (engine.run round).Ready queue ∧
      (engine.run round).hub.journal.fates =
        engine.hub.journal.fates ++ [(command, .handed)] := by
  obtain ⟨config, ⟨pending, accepting, observers, mailboxes, counters, journal⟩, phase,
    writer, reader⟩ := engine
  obtain ⟨rfl, rfl, rfl⟩ := h
  refine ⟨⟨rfl, rfl, rfl⟩, ?_⟩
  show Journal.fates (.written [command] :: .handed [command] :: journal) = _
  simp [Journal.fates_cons, Event.fates]

-- A closed link that opens again writes down what is left in the queue.
def reopen : List Step := [.detach, .connect none]

theorem ready_reopen (hphase : engine.phase = .closed) (hwriter : engine.writer = .ended) :
    (engine.run reopen).Ready engine.hub.pending ∧
      (engine.run reopen).hub.journal.fates = engine.hub.journal.fates := by
  obtain ⟨config, hub, phase, writer, reader⟩ := engine
  obtain ⟨rfl, rfl⟩ : phase = .closed ∧ writer = .ended := ⟨hphase, hwriter⟩
  refine ⟨⟨rfl, rfl, rfl⟩, ?_⟩
  show Journal.fates (.connected :: hub.journal) = _
  simp [Journal.fates_cons, Event.fates]

theorem Ready.exists_handed {queue : List Command} (h : engine.Ready queue)
    (hn : engine.hub.journal.fates.length ≤ n)
    (hlt : n < engine.hub.journal.fates.length + queue.length) :
    ∃ later, (engine.run later).hub.journal.Handed n := by
  induction queue generalizing engine with
  | nil =>
    rw [List.length_nil] at hlt
    omega
  | cons command queue ih =>
    obtain ⟨hready, hfates⟩ := h.round
    by_cases hhead : n = engine.hub.journal.fates.length
    · refine ⟨Engine.round, ?_⟩
      rw [Journal.Handed, hfates, hhead, List.getElem?_concat_length]
      rfl
    · have hlength : (engine.run Engine.round).hub.journal.fates.length =
          engine.hub.journal.fates.length + 1 := by
        rw [hfates, List.length_append, List.length_singleton]
      rw [List.length_cons] at hlt
      obtain ⟨later, hlater⟩ := ih hready (by omega) (by omega)
      refine ⟨Engine.round ++ later, ?_⟩
      rw [run_append]
      exact hlater

-- Of the commands that a close left unwritten, those in the queue can still be
-- handed over, and the one that the write loop had in hand cannot.
theorem exists_handed_iff (config : Config) (steps : List Step)
    (hclosed : ((fresh config).run steps).phase = .closed)
    (haccepted : n < ((fresh config).run steps).hub.journal.accepted.length)
    (hhanded : ¬ ((fresh config).run steps).hub.journal.Handed n) :
    (∃ later, (((fresh config).run steps).run later).hub.journal.Handed n) ↔
      ((fresh config).run steps).hub.journal.fates.length ≤ n := by
  have hlength := length_accepted_of_closed config steps hclosed
  have hended := writer_of_closed config steps hclosed
  generalize (fresh config).run steps = engine at *
  constructor
  · intro ⟨later, hlater⟩
    rcases Nat.lt_or_ge n engine.hub.journal.fates.length with hlt | hge
    · exact absurd ((handed_run_iff engine later hlt).1 hlater) hhanded
    · exact hge
  · intro hn
    obtain ⟨hready, hfates⟩ := ready_reopen hclosed hended
    obtain ⟨later, hlater⟩ := hready.exists_handed (n := n) (by rw [hfates]; exact hn)
      (by rw [hfates]; omega)
    refine ⟨reopen ++ later, ?_⟩
    rw [run_append]
    exact hlater

-- The first commands, as many as the number says, are handed over by now or never.
def Discards (engine : Engine) (count : Nat) : Prop :=
  ∀ n < count, ¬ engine.hub.journal.Handed n →
    ∀ later, ¬ (engine.run later).hub.journal.Handed n

private theorem discards_iff_of_le (config : Config) (steps : List Step)
    (hclosed : ((fresh config).run steps).phase = .closed) (count : Nat)
    (hcount : count ≤ ((fresh config).run steps).hub.journal.accepted.length) :
    ((fresh config).run steps).Discards count ↔
      count ≤ ((fresh config).run steps).hub.journal.fates.length := by
  have hexists (n : Nat) := exists_handed_iff (n := n) config steps hclosed
  generalize (fresh config).run steps = engine at *
  constructor
  · intro hdiscards
    rcases Nat.lt_or_ge engine.hub.journal.fates.length count with hlt | hge
    · have hwaits : ¬ engine.hub.journal.Handed engine.hub.journal.fates.length :=
        fun h => absurd h.lt (Nat.lt_irrefl _)
      obtain ⟨later, hlater⟩ := (hexists _ (by omega) hwaits).2 (Nat.le_refl _)
      exact absurd hlater (hdiscards _ hlt hwaits later)
    · exact hge
  · intro hle n hn hhanded later hlater
    have hge := (hexists n (by omega) hhanded).1 ⟨later, hlater⟩
    omega

-- A close discards what was accepted before it and is not written yet just when
-- the queue holds nothing in the end but what came during the close. All that is
-- written after it is accepted after it just when the queue is empty.
theorem discards_iff (config : Config) (before during : List Step)
    (hclosed : (((fresh config).run before).run during).phase = .closed) :
    let opened := (fresh config).run before
    let closed := opened.run during
    (closed.Discards opened.hub.journal.accepted.length ↔
        closed.hub.pending.length + opened.hub.journal.accepted.length ≤
          closed.hub.journal.accepted.length) ∧
      (closed.Discards closed.hub.journal.accepted.length ↔ closed.hub.pending = []) := by
  intro opened closed
  have hrun : (fresh config).run (before ++ during) = closed := run_append _ before during
  have hlength := length_accepted_of_closed config (before ++ during) (by rw [hrun]; exact hclosed)
  have hiff := discards_iff_of_le config (before ++ during) (by rw [hrun]; exact hclosed)
  rw [hrun] at hlength hiff
  have hgrows : opened.hub.journal.accepted.length ≤ closed.hub.journal.accepted.length :=
    (accepted_prefix_run opened during).length_le
  constructor
  · rw [hiff _ hgrows]
    omega
  · rw [hiff _ (Nat.le_refl _), ← List.length_eq_zero_iff]
    omega

-- The link is open and its first write is stuck, so that a second command waits.
def stuck (channel other : Channel) : List Step :=
  [.connect none, .call channel .openBus, .resume, .receive, .confirm, .ship,
    .call other .openBus]

-- A caller closes the link, and the write fails with it.
def closeStuck : List Step :=
  [.shut, .poll, .release, .write .failed, .resume, .rejoin]

theorem not_discards_stuck :
    (((fresh (.forDevice "can")).run (stuck 0 1)).run closeStuck).phase = .closed ∧
      ¬ (((fresh (.forDevice "can")).run (stuck 0 1)).run closeStuck).Discards 2 := by
  have hclosed :
      (((fresh (.forDevice "can")).run (stuck 0 1)).run closeStuck).phase = .closed := rfl
  refine ⟨hclosed, ?_⟩
  intro h
  have hqueue := (discards_iff (.forDevice "can") (stuck 0 1) closeStuck hclosed).1.1 h
  revert hqueue
  decide

theorem exists_not_discards :
    ¬ ∀ (config : Config) (before during : List Step),
      ((fresh config).run before).phase = .running →
      (((fresh config).run before).run during).phase = .closed →
      (((fresh config).run before).run during).Discards
        ((fresh config).run before).hub.journal.accepted.length := by
  intro hall
  have hstuck := hall (.forDevice "can") (stuck 0 1) closeStuck rfl rfl
  refine hstuck 1 (by decide) (by decide) (reopen ++ Engine.round) ?_
  decide

end Engine

end QuadCan
