import QuadCan.Proofs.Engine.Tally

namespace QuadCan

def Input.line? : Input → Option Bytes
  | .line bytes => some bytes
  | _ => none

-- The commands that the observers of a frame send about it, in the order of their turns.
def Delivery.sends (delivery : Delivery) : List Command :=
  delivery.waiting.flatMap fun entry =>
    (Action.performed (entry.1 delivery.frame)).flatMap fun action => Hub.commandOf (some action)

namespace Roster

def sends (roster : Roster) : Input → List Command
  | .line line => (roster.delivery? line).elim [] Delivery.sends
  | _ => []

def sendsAll (roster : Roster) : List Input → List Command
  | [] => []
  | input :: inputs => roster.sends input ++ (roster.next input).sendsAll inputs

end Roster

-- The counters after lines have come in, each one counted as a line and as what it is, and the
-- queue has taken in some commands meanwhile. The others stay as they are.
def Counters.takeIn (counters : Counters) (lines : List Bytes) (commands : List Command) :
    Counters :=
  { counters with
    linesReceived := counters.linesReceived + UInt64.ofNat lines.length
    framesDelivered :=
      counters.framesDelivered + UInt64.ofNat (lines.countP (LineKind.of · = .frame))
    linesDropped := counters.linesDropped + UInt64.ofNat (lines.countP (LineKind.of · = .damaged))
    nonFrameLines := counters.nonFrameLines + UInt64.ofNat (lines.countP (LineKind.of · = .noise))
    commandsQueued := counters.commandsQueued + UInt64.ofNat commands.length }

namespace Hub

theorem feeds_consult (channel : Channel) (frame : Frame) (hub : Hub) (entry : Observer × Nat) :
    hub.Feeds (consult channel frame hub entry)
      (hub.admitted ((Action.performed (entry.1 frame)).flatMap fun action =>
        commandOf (some action))) := by
  have hcalled : hub.Feeds (hub.log (.called channel entry.2 frame)) (hub.admitted []) :=
    (feeds_log hub rfl).admitted_nil
  exact hcalled.append (feeds_foldl (fun hub => feeds_act hub channel frame) _ _)

theorem feeds_process (hub : Hub) (input : Input) :
    hub.Feeds (hub.process input) (hub.admitted (hub.roster.sends input)) := by
  cases input with
  | register channel observer =>
    have hsame : hub.Feeds (hub.register channel observer) [] := fun _ _ _ => .refl
    exact hsame.admitted_nil
  | subscribe channel =>
    have hsame : hub.Feeds (hub.subscribe channel).2 [] := fun _ _ _ => .refl
    exact hsame.admitted_nil
  | line line =>
    have hreceive := (feeds_receive hub line).admitted_nil
    rw [process, dispatch_eq, Roster.sends]
    cases hub.roster.delivery? line with
    | none => exact hreceive
    | some delivery => exact hreceive.append (feeds_foldl (feeds_consult _ _) _ _)

-- What the observers send is all that reaches the queue.
theorem feeds_processAll (hub : Hub) (inputs : List Input) :
    hub.Feeds (hub.processAll inputs) (hub.admitted (hub.roster.sendsAll inputs)) := by
  induction inputs generalizing hub with
  | nil => exact (Feeds.refl hub).admitted_nil
  | cons input inputs ih =>
    have hrest := ih (hub.process input)
    rw [roster_process] at hrest
    exact (feeds_process hub input).append hrest

theorem books_process (hub : Hub) (input : Input) :
    hub.Books (hub.process input) (input.line?.toList.map .received) := by
  cases input with
  | line line => exact books_dispatch hub line
  | register => exact books_of_eq rfl rfl
  | subscribe => exact books_of_eq rfl rfl

theorem books_processAll (hub : Hub) (inputs : List Input) :
    hub.Books (hub.processAll inputs) ((inputs.filterMap Input.line?).map .received) := by
  induction inputs generalizing hub with
  | nil => exact .refl hub
  | cons input inputs ih =>
    have hlines : (input :: inputs).filterMap Input.line? =
        input.line?.toList ++ inputs.filterMap Input.line? := by
      cases input with
      | _ => rfl
    rw [hlines, List.map_append]
    exact (books_process hub input).trans (ih _)

-- Whatever the observers do, nothing else is counted but what they send.
theorem counters_processAll (hub : Hub) (inputs : List Input) :
    (hub.processAll inputs).counters =
      hub.counters.takeIn (inputs.filterMap Input.line?)
        (hub.admitted (hub.roster.sendsAll inputs)) := by
  have haccepted := (feeds_processAll hub inputs 0 .closed .ended).accepted
  have htallies := (books_processAll hub inputs).tallies haccepted
  generalize inputs.filterMap Input.line? = lines at htallies ⊢
  have hlines : (lines.map Event.received).filterMap Event.line? = lines := by
    simp [List.filterMap_map, Function.comp_def, Event.line?]
  have hnone {α : Type} {question : Event → Option α}
      (h : ∀ line, question (.received line) = none) :
      (lines.map Event.received).filterMap question = [] := by
    rw [List.filterMap_map, List.filterMap_eq_nil_iff]
    exact fun line _ => h line
  generalize (hub.processAll inputs).counters = after at htallies ⊢
  obtain ⟨hreceived, hdelivered, hdropped, hother, herrors, hqueued, hbatches, hbytes,
    hfailures⟩ := htallies
  rw [hlines] at hreceived hdelivered hdropped hother
  rw [hnone fun _ => rfl] at herrors hbatches hbytes hfailures
  obtain ⟨⟩ := after
  simp only [Counters.takeIn, Counters.mk.injEq]
  refine ⟨hreceived, hdelivered, hdropped, hother, ?_, hqueued, ?_, ?_, ?_⟩
  · exact herrors.trans (UInt64.add_zero _)
  · exact hbatches.trans (UInt64.add_zero _)
  · exact hbytes.trans (UInt64.add_zero _)
  · exact hfailures.trans (UInt64.add_zero _)

end Hub

namespace Engine

-- The counters of an engine that has got these lines.
structure Counted (engine : Engine) (lines : List Bytes) : Prop where
  received : engine.hub.counters.linesReceived = UInt64.ofNat lines.length
  delivered : engine.hub.counters.framesDelivered =
    UInt64.ofNat (lines.countP (LineKind.of · = .frame))
  dropped : engine.hub.counters.linesDropped =
    UInt64.ofNat (lines.countP (LineKind.of · = .damaged))
  other : engine.hub.counters.nonFrameLines =
    UInt64.ofNat (lines.countP (LineKind.of · = .noise))
  -- no line is counted twice, and only an empty one is counted as nothing
  sum : engine.hub.counters.linesReceived =
    engine.hub.counters.framesDelivered + engine.hub.counters.linesDropped +
      engine.hub.counters.nonFrameLines + UInt64.ofNat (lines.count [])

theorem counted_run (config : Config) (steps : List Step) :
    ((fresh config).run steps).Counted
      (((fresh config).along answered steps).filterMap Event.line?) := by
  have htallies := tallies_run (fresh config) steps
  have hreceived := htallies.linesReceived.trans (UInt64.zero_add _)
  have hdelivered := htallies.framesDelivered.trans (UInt64.zero_add _)
  have hdropped := htallies.linesDropped.trans (UInt64.zero_add _)
  have hother := htallies.nonFrameLines.trans (UInt64.zero_add _)
  refine ⟨hreceived, hdelivered, hdropped, hother, ?_⟩
  rw [hreceived, hdelivered, hdropped, hother, ← UInt64.ofNat_add, ← UInt64.ofNat_add,
    ← UInt64.ofNat_add, ← LineKind.countP_empty, ← LineKind.length_eq_countP]

-- The account of the lines that come in, for a hub in any state and for an engine at every point
-- of a run. A text is shared out between characters, and the kinds leave none out and have none
-- in common.
theorem lines_counted :
    (∀ (hub : Hub) (inputs : List Input),
      (hub.processAll inputs).counters =
        hub.counters.takeIn (inputs.filterMap Input.line?)
          (hub.admitted (hub.roster.sendsAll inputs))) ∧
    (∀ text : String,
      (∃ channel rest, Routes text.toList channel rest ∧
        route (Utf8.ofString text) = (channel, Utf8.encode rest)) ∧
      ∀ kind, LineKind.of (Utf8.ofString text) = kind ↔ LineKind.Fits text.toList kind) ∧
    ∀ (config : Config) (steps : List Step),
      ((fresh config).run steps).Counted
        (((fresh config).along answered steps).filterMap Event.line?) := by
  refine ⟨Hub.counters_processAll, fun text => ⟨?_, LineKind.of_encode_eq_iff text.toList⟩,
    counted_run⟩
  obtain ⟨channel, rest, hroutes⟩ := exists_routes text.toList
  exact ⟨channel, rest, hroutes, route_of_routes hroutes⟩

end Engine

end QuadCan
