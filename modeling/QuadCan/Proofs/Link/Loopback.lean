import QuadCan.Proofs.Engine.Conservation
import QuadCan.Proofs.Engine.Writes
import QuadCan.Proofs.Frame.Line
import QuadCan.Proofs.Hub.Mail
import QuadCan.Proofs.Line.Lines

namespace QuadCan

-- A command that has left the queue for good and was not written.
def Event.isLoss : Event → Bool
  | .lost _ | .crashed _ | .abandoned _ => true
  | _ => false

namespace Journal

theorem settled_of_no_loss {journal : Journal} (h : ∀ event ∈ journal, event.isLoss = false) :
    journal.settled = journal.written := by
  induction journal with
  | nil => rfl
  | cons event journal ih =>
    have hrest := ih fun other hm => h other (List.mem_cons_of_mem event hm)
    have hevent := h event List.mem_cons_self
    rw [settled_cons, written_cons, hrest]
    cases event with
    | lost => cases hevent
    | crashed => cases hevent
    | _ => rfl

theorem fates_of_no_loss {journal : Journal} (h : ∀ event ∈ journal, event.isLoss = false) :
    journal.fates.map Prod.fst = journal.handed.flatten := by
  induction journal with
  | nil => rfl
  | cons event journal ih =>
    have hrest := ih fun other hm => h other (List.mem_cons_of_mem event hm)
    have hevent := h event List.mem_cons_self
    rw [fates_cons, handed_cons, List.map_append, List.flatten_append, hrest]
    cases event with
    | abandoned => cases hevent
    | handed batch =>
      rw [map_fates_handed]
      exact congrArg _ (List.append_nil batch).symm
    | _ => rfl

end Journal

-- Nothing but frames is given to the queue in a step, and callers are left.
def Step.sendsOnly : Step → Bool
  | .call _ (.send _) => true
  | .call _ _ => false
  | .push _ => false
  | .retire => false
  | _ => true

namespace Engine

-- The frames that callers and observers send in a step, each with its channel.
def sent (engine : Engine) : Step → List (Channel × Frame)
  | .call channel (.send frame) => [(channel, frame)]
  | .observe =>
      match engine.action? with
      | some (.send channel frame) => [(channel, frame)]
      | _ => []
  | _ => []

-- The frames that callers and observers send in a run.
def sends (engine : Engine) : List Step → List (Channel × Frame)
  | [] => []
  | step :: steps => engine.sent step ++ (engine.step step).sends steps

-- The lines of frames that were sent.
def lines (sends : List (Channel × Frame)) : List Command :=
  sends.map fun send => send.2.encode send.1.val

theorem submitted_of_sendsOnly (engine : Engine) {step : Step} (h : step.sendsOnly = true) :
    engine.submitted step = lines (engine.sent step) := by
  cases step with
  | call channel operation =>
    cases operation with
    | send => rfl
    | _ => cases h
  | push => cases h
  | observe =>
    rw [submitted, sent]
    cases engine.action? with
    | none => rfl
    | some action =>
      cases action with
      | _ => rfl
  | _ => rfl

theorem submissions_of_sendsOnly (engine : Engine) {steps : List Step}
    (h : ∀ step ∈ steps, step.sendsOnly = true) :
    engine.submissions steps = lines (engine.sends steps) := by
  induction steps generalizing engine with
  | nil => rfl
  | cons step steps ih =>
    have hhead := submitted_of_sendsOnly engine (h step List.mem_cons_self)
    have htail := ih (engine.step step) fun other hm => h other (List.mem_cons_of_mem step hm)
    rw [submissions, sends, hhead, htail, lines, lines, lines, List.map_append]

-- All that the queue took in has been written, with success.
structure Flushed (engine : Engine) : Prop where
  pending : engine.hub.pending = []
  inHand : engine.writer.inHand = []
  underway : engine.writer.underway = []
  losses : ∀ event ∈ engine.hub.journal, event.isLoss = false

theorem written_of_flushed (config : Config) (steps : List Step)
    (h : ((fresh config).run steps).Flushed) :
    ((fresh config).run steps).hub.journal.written.flatten =
      ((fresh config).run steps).hub.journal.accepted := by
  have horderly := orderly_run config steps
  have haccepted := accepted_run config steps
  generalize (fresh config).run steps = engine at *
  rw [Outflow.Orderly, outflow_journal, outflow_writer, h.underway, List.append_nil,
    Journal.settled_of_no_loss h.losses] at horderly
  rw [haccepted, Journal.fates_of_no_loss h.losses, horderly, Outflow.held, outflow_writer,
    outflow_pending, h.inHand, h.pending]
  exact (List.append_nil _).symm

theorem written_of_sends (config : Config) {steps : List Step}
    (hsteps : ∀ step ∈ steps, step.sendsOnly = true) (h : ((fresh config).run steps).Flushed) :
    ((fresh config).run steps).hub.journal.written.flatten =
      lines ((fresh config).sends steps) := by
  have hretire : Step.retire ∉ steps := fun hm => by cases hsteps _ hm
  rw [written_of_flushed config steps h, accepted_run_eq_submissions config hretire,
    submissions_of_sendsOnly _ hsteps]

end Engine

-- The lines that a reader of a stream hands on, as text.
def Splitter.texts (reads : List Read) : List Bytes :=
  ((({} : Splitter).results reads).1.filterMap Result.line?).map Utf8.repair

theorem Splitter.fits_lines {sends : List (Channel × Frame)}
    (h : ∀ send ∈ sends, send.2.WellFormed) : Fits (Engine.lines sends) := by
  intro line hline
  obtain ⟨⟨channel, frame⟩, hm, rfl⟩ := List.mem_map.mp hline
  have hlength := Frame.length_encode_le (h _ hm) channel
  refine ⟨?_, Nat.le_trans hlength (by decide)⟩
  intro hdelimiter
  have hword := Frame.isWordByte_of_mem_encode hdelimiter
  revert hword
  decide

theorem Splitter.texts_of_stream {sends : List (Channel × Frame)} {reads : List Read}
    (hsends : ∀ send ∈ sends, send.2.WellFormed)
    (hreads : Read.stream reads = Batch.wire (Engine.lines sends)) :
    texts reads = Engine.lines sends := by
  have hlines := lines_results {} reads kept_nil (fits_lines hsends) hreads
  rw [texts, hlines]
  conv => rhs; rw [← List.map_id (Engine.lines sends)]
  refine List.map_congr_left ?_
  intro line hline
  obtain ⟨⟨channel, frame⟩, -, rfl⟩ := List.mem_map.mp hline
  exact Utf8.repair_of_isAscii (frame.isAscii_encode channel)

namespace Hub

theorem frameOf?_encode {frame : Frame} (h : frame.WellFormed) (channel owner : Channel) :
    frameOf? owner (frame.encode channel.val) = if channel = owner then some frame else none := by
  rw [frameOf?, Frame.route_encode, Frame.parse?, Frame.parse_body h]
  rfl

theorem filterMap_frameOf?_lines {sends : List (Channel × Frame)}
    (h : ∀ send ∈ sends, send.2.WellFormed) (owner : Channel) :
    (Engine.lines sends).filterMap (frameOf? owner) =
      (sends.filter fun send => send.1 = owner).map Prod.snd := by
  induction sends with
  | nil => rfl
  | cons send sends ih =>
    obtain ⟨channel, frame⟩ := send
    have hrest := ih fun other hm => h other (List.mem_cons_of_mem _ hm)
    have hframe := frameOf?_encode (h _ List.mem_cons_self) channel owner
    rw [Engine.lines] at hrest
    rw [Engine.lines, List.map_cons, List.filterMap_cons, hframe, hrest]
    by_cases hchannel : channel = owner
    · simp [hchannel]
    · simp [hchannel]

end Hub

-- Frames come back from the wire as they were sent. All the sends of a run are
-- written in whatever batches, the bytes are cut into whatever reads with
-- failures between them, and a subscriber to a channel receives its frames in order.
theorem Engine.mail_loopback (config : Config) (steps : List Step)
    (hsteps : ∀ step ∈ steps, step.sendsOnly = true)
    (hsends : ∀ send ∈ (fresh config).sends steps, send.2.WellFormed)
    (hflushed : ((fresh config).run steps).Flushed) (reads : List Read)
    (hreads : Read.stream reads =
      ((fresh config).run steps).hub.journal.written.flatMap Batch.wire)
    {hub : Hub} {channel : Channel} {mailbox : Nat} (hsubscribed : hub.Subscribed channel mailbox) :
    ((Splitter.texts reads).foldl Hub.dispatch hub).mail mailbox =
      hub.mail mailbox ++
        (((fresh config).sends steps).filter fun send => send.1 = channel).map Prod.snd := by
  have hstream : Read.stream reads = Batch.wire (lines ((fresh config).sends steps)) := by
    rw [hreads, ← Batch.wire_flatten, written_of_sends config hsteps hflushed]
  rw [Splitter.texts_of_stream hsends hstream, Hub.mail_dispatch_all hsubscribed,
    Hub.filterMap_frameOf?_lines hsends]

-- Two frames go out in one batch, on two channels.
def pairSteps (channel other : Channel) : List Step :=
  [.connect none, .call channel (.send (Frame.ofData 0x123 [0x0D])), .resume, .receive, .confirm,
    .call other (.send (Frame.ofData 0x7FF [])), .gather, .ship, .write .written]

-- They come in cut within the first line, and in between a read fails.
def pairReads : List Read :=
  let bytes := Batch.wire [(Frame.ofData 0x123 [0x0D]).encode 1, (Frame.ofData 0x7FF []).encode 2]
  [.data (bytes.take 4), .failed ⟨.timedOut, none⟩, .data (bytes.drop 4)]

theorem Engine.mail_loopback_pair :
    ((Splitter.texts pairReads).foldl Hub.dispatch (({} : Hub).subscribe 1).2).mail 0 =
      [Frame.ofData 0x123 [0x0D]] := by
  have hsubscribed : ((({} : Hub).subscribe 1).2).Subscribed 1 0 :=
    (Hub.subscribed_subscribe 1 (fun _ _ h => by cases h)).1
  have hsends : ∀ send ∈ (fresh (.forDevice "can")).sends (pairSteps 1 2),
      send.2.WellFormed := by decide
  have hflushed : ((fresh (.forDevice "can")).run (pairSteps 1 2)).Flushed :=
    ⟨rfl, rfl, rfl, by decide⟩
  exact mail_loopback (.forDevice "can") (pairSteps 1 2) (by decide) hsends hflushed pairReads
    (by decide) hsubscribed

end QuadCan
