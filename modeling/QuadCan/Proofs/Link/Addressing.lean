import QuadCan.Proofs.Command.Decoding
import QuadCan.Proofs.Engine.Runs
import QuadCan.Proofs.Link.Loopback

namespace QuadCan

-- A run of commands is cut into its commands again, with nothing after the last delimiter.
theorem Batch.splitOn_wire {commands : List Command}
    (h : ∀ command ∈ commands, Command.delimiter ∉ command) :
    (Batch.wire commands).splitOn Command.delimiter = commands ++ [[]] := by
  induction commands with
  | nil => rfl
  | cons command commands ih =>
    obtain ⟨hcommand, hrest⟩ := List.forall_mem_cons.mp h
    rw [Batch.wire_cons, List.splitOn_append_cons_self_of_not_mem hcommand, ih hrest]
    rfl

-- No line holds the delimiter that it was cut at.
theorem Batch.delimiter_notMem_of_mem_splitOn {bytes line : Bytes}
    (h : line ∈ bytes.splitOn Command.delimiter) : Command.delimiter ∉ line := by
  induction bytes generalizing line with
  | nil =>
    rw [List.splitOn_nil, List.mem_singleton] at h
    subst h
    exact List.not_mem_nil
  | cons byte bytes ih =>
    obtain ⟨first, others, hlines⟩ :=
      List.exists_cons_of_ne_nil (List.splitOn_ne_nil Command.delimiter bytes)
    rw [List.splitOn_cons_eq_if_modifyHead, hlines] at h
    rw [hlines] at ih
    by_cases hbyte : byte = Command.delimiter
    · rw [if_pos (beq_iff_eq.mpr hbyte)] at h
      rcases List.mem_cons.mp h with rfl | h
      · exact List.not_mem_nil
      · exact ih h
    · rw [if_neg (mt beq_iff_eq.mp hbyte)] at h
      rcases List.mem_cons.mp h with rfl | h
      · exact List.not_mem_cons_of_ne_of_not_mem (Ne.symm hbyte) (ih List.mem_cons_self)
      · exact ih (List.mem_cons_of_mem _ h)

-- Cutting at the delimiters gives one line for each command just when no command holds one.
theorem Batch.splitOn_wire_iff (commands : List Command) :
    (Batch.wire commands).splitOn Command.delimiter = commands ++ [[]] ↔
      ∀ command ∈ commands, Command.delimiter ∉ command := by
  constructor
  · intro h command hm
    have hline : command ∈ (Batch.wire commands).splitOn Command.delimiter := by
      rw [h]
      exact List.mem_append_left _ hm
    exact delimiter_notMem_of_mem_splitOn hline
  · exact splitOn_wire

namespace Operation

-- The text that a call passes on, if it passes one on, has no end of line in it.
def IsOneLine (operation : Operation) : Prop :=
  ∀ text, operation.text? = some text → '\r' ∉ text.toList

instance (operation : Operation) : Decidable operation.IsOneLine :=
  decidable_of_iff (∀ text ∈ operation.text?, '\r' ∉ text.toList) Iff.rfl

theorem delimiter_mem_ofString_iff (text : String) :
    Command.delimiter ∈ Utf8.ofString text ↔ '\r' ∈ text.toList :=
  Utf8.mem_encode_iff (by decide) text.toList

-- A text goes into the only body of its command as it is.
theorem bodies_of_text {operation : Operation} {text : String}
    (h : operation.text? = some text) : operation.bodies = .ok [Utf8.ofString text] := by
  cases operation with
  | setCustomTiming =>
    cases h
    rfl
  | sendRaw =>
    cases h
    rfl
  | _ => cases h

theorem delimiter_mem_stamp_iff {channel : Channel} {body : Bytes} :
    Command.delimiter ∈ Command.stamp channel.val body ↔ Command.delimiter ∈ body := by
  rw [Command.stamp_channel, List.mem_cons, or_iff_right]
  revert channel
  decide

-- A call that is not refused queues commands of one line each just when its text has no end of
-- line in it.
theorem delimiter_notMem_commands_iff {operation : Operation} {channel : Channel}
    {commands : List Command} (h : operation.commands channel = .ok commands) :
    (∀ command ∈ commands, Command.delimiter ∉ command) ↔ operation.IsOneLine := by
  unfold Operation.commands at h
  cases hbodies : operation.bodies with
  | error fault =>
    rw [hbodies] at h
    cases h
  | ok bodies =>
    rw [hbodies] at h
    cases h
    rw [List.forall_mem_map]
    simp only [delimiter_mem_stamp_iff]
    cases htext : operation.text? with
    | none =>
      have honeLine : operation.IsOneLine := by
        intro text hsome
        rw [htext] at hsome
        cases hsome
      have hword := wordy_bodies htext bodies hbodies
      exact iff_of_true (fun body hm => (hword body hm).delimiter_notMem) honeLine
    | some text =>
      rw [bodies_of_text htext] at hbodies
      cases hbodies
      rw [List.forall_mem_singleton, delimiter_mem_ofString_iff, IsOneLine, htext]
      simp

end Operation

namespace Step

-- Nothing is given to the queue but by calls on a channel, and callers are left.
def callsOnly : Step → Bool
  | push _ => false
  | retire => false
  | _ => true

def isOneLine : Step → Bool
  | call _ operation => decide operation.IsOneLine
  | _ => true

end Step

namespace Engine

-- The commands of the calls in a step, each with the channel of its call.
def addressed (engine : Engine) : Step → List (Channel × Command)
  | .call channel operation => ((operation.commands channel).toOption.getD []).map (channel, ·)
  | .observe =>
      match engine.action? with
      | some (.send channel frame) => [(channel, frame.encode channel.val)]
      | _ => []
  | _ => []

theorem submitted_of_callsOnly (engine : Engine) (step : Step) (h : step.callsOnly = true) :
    engine.submitted step = (engine.addressed step).map Prod.snd := by
  cases step with
  | call channel operation =>
    rw [submitted, addressed, List.map_map]
    exact (List.map_id _).symm
  | push => cases h
  | observe =>
    rw [submitted, addressed]
    cases engine.action? with
    | none => rfl
    | some action =>
      cases action with
      | _ => rfl
  | _ => rfl

theorem submissions_eq_along (engine : Engine) (steps : List Step) :
    engine.submissions steps = engine.along submitted steps := by
  induction steps generalizing engine with
  | nil => rfl
  | cons step steps ih => rw [submissions, along, ih]

private theorem exists_stamp_of_mem_addressed {engine : Engine} {step : Step}
    {call : Channel × Command} (h : call ∈ engine.addressed step) :
    ∃ body, call.2 = Command.stamp call.1.val body := by
  cases step with
  | call channel operation =>
    obtain ⟨command, hcommand, rfl⟩ := List.mem_map.mp h
    unfold Operation.commands at hcommand
    cases hbodies : operation.bodies with
    | error fault =>
      rw [hbodies] at hcommand
      exact absurd hcommand List.not_mem_nil
    | ok bodies =>
      rw [hbodies] at hcommand
      obtain ⟨body, -, rfl⟩ := List.mem_map.mp hcommand
      exact ⟨body, rfl⟩
  | observe =>
    rw [addressed] at h
    split at h
    next channel frame _ =>
      rw [List.mem_singleton.mp h]
      exact ⟨frame.body, rfl⟩
    next => exact absurd h List.not_mem_nil
  | _ => exact absurd h List.not_mem_nil

theorem delimiter_notMem_addressed_iff (engine : Engine) (step : Step) :
    (∀ call ∈ engine.addressed step, Command.delimiter ∉ call.2) ↔
      step.isOneLine = true := by
  cases step with
  | call channel operation =>
    rw [addressed, List.forall_mem_map, Step.isOneLine, decide_eq_true_iff]
    cases hcommands : operation.commands channel with
    | ok commands => exact Operation.delimiter_notMem_commands_iff hcommands
    | error fault =>
      refine iff_of_true (fun _ hm => absurd hm List.not_mem_nil) ?_
      intro text htext
      rw [Operation.commands, Operation.bodies_of_text htext] at hcommands
      cases hcommands
  | observe =>
    refine iff_of_true ?_ rfl
    intro call hm
    rw [addressed] at hm
    split at hm
    next channel frame _ =>
      rw [List.mem_singleton.mp hm]
      exact Command.delimiter_notMem_stamp frame.isWord_body
    next => exact absurd hm List.not_mem_nil
  | _ => exact iff_of_true (fun _ hm => absurd hm List.not_mem_nil) rfl

-- A command of a call on a channel begins with the digit of that channel.
theorem exists_stamp_of_mem_along {engine : Engine} {steps : List Step}
    {call : Channel × Command} (h : call ∈ engine.along addressed steps) :
    ∃ body, call.2 = Command.stamp call.1.val body := by
  have hstep : ∀ engine step, (∀ call ∈ addressed engine step,
      ∃ body, call.2 = Command.stamp call.1.val body) ↔ True := fun engine step =>
    iff_of_true (fun call hm => exists_stamp_of_mem_addressed hm) trivial
  exact (forall_mem_along hstep engine steps).mpr (fun _ _ => trivial) call h

-- When all that was asked of the channels is written, the bytes on the link are cut into one
-- line for each command, in order and each with the digit of its own channel in front, just
-- when no text that was passed on has an end of line in it.
theorem lines_written (config : Config) (steps : List Step)
    (hsteps : ∀ step ∈ steps, step.callsOnly = true)
    (hflushed : ((fresh config).run steps).Flushed) :
    let calls := (fresh config).along addressed steps
    let stream := ((fresh config).run steps).hub.journal.written.flatMap Batch.wire
    stream = Batch.wire (calls.map Prod.snd) ∧
    (∀ call ∈ calls, Decimal.digits call.1.val <+: call.2 ∧ (route call.2).1 = call.1) ∧
    (stream.splitOn Command.delimiter = calls.map Prod.snd ++ [[]] ↔
      ∀ step ∈ steps, step.isOneLine = true) := by
  intro calls stream
  have hretire : Step.retire ∉ steps := fun hm => by cases hsteps _ hm
  have hcalls : (fresh config).submissions steps = calls.map Prod.snd := by
    rw [submissions_eq_along]
    exact along_map _ submitted_of_callsOnly hsteps
  have hstream : stream = Batch.wire (calls.map Prod.snd) := by
    rw [← hcalls, ← accepted_run_eq_submissions config hretire,
      ← written_of_flushed config steps hflushed, Batch.wire_flatten]
  refine ⟨hstream, ?_, ?_⟩
  · intro call hm
    obtain ⟨body, hbody⟩ := exists_stamp_of_mem_along hm
    rw [hbody, Command.route_stamp]
    exact ⟨List.prefix_append _ _, rfl⟩
  · rw [hstream, Batch.splitOn_wire_iff, List.forall_mem_map]
    exact forall_mem_along delimiter_notMem_addressed_iff _ _

-- Two calls on different channels in one batch, the second with a text.
def pairCalls (channel other : Channel) (text : String) : List Step :=
  [.connect none, .call channel .openBus, .resume, .receive, .confirm, .call other (.sendRaw text),
    .gather, .ship, .write .written]

theorem lines_written_pair :
    (((fresh (.forDevice "can")).run (pairCalls 0 3 "V")).hub.journal.written.flatMap
      Batch.wire).splitOn Command.delimiter = [Utf8.ofString "0O", Utf8.ofString "3V", []] := by
  have hlines := lines_written (.forDevice "can") (pairCalls 0 3 "V") (by decide)
    ⟨rfl, rfl, rfl, by decide⟩
  exact hlines.2.2.mpr (by decide)

-- A text is passed on as it is, and an end of line in it ends the line: the rest of it becomes
-- a line of its own, here one for another channel.
theorem exists_smuggled_line :
    ¬ ∀ (config : Config) (steps : List Step), (∀ step ∈ steps, step.callsOnly = true) →
      ((fresh config).run steps).Flushed →
        (((fresh config).run steps).hub.journal.written.flatMap Batch.wire).splitOn
            Command.delimiter =
          ((fresh config).along addressed steps).map Prod.snd ++ [[]] := by
  intro h
  have hlines := h (.forDevice "can") (pairCalls 0 3 "V\r1O") (by decide)
    ⟨rfl, rfl, rfl, by decide⟩
  revert hlines
  decide

end Engine

end QuadCan
