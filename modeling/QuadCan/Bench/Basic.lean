import QuadCan.Bench.Link

namespace QuadCan

-- An engine on a scripted link, under a schedule of its own: the write loop
-- runs as far as it can before anything else happens.
structure Bench where
  engine : Engine
  link : Link := {}

namespace Bench

def repeated (count : Nat) (turn : Bench → Bench) (bench : Bench) : Bench :=
  match count with
  | 0 => bench
  | count + 1 => repeated count turn (turn bench)

-- A step of the engine. The link notices when it is let go.
def step (bench : Bench) (step : Step) : Bench :=
  let engine := bench.engine.step step
  let isGone := fun phase : Phase => phase = .released .caller ∨ phase = .released .observer
  if isGone engine.phase ∧ ¬ isGone bench.engine.phase then
    ⟨engine, bench.link.gone bench.engine.writer⟩
  else ⟨engine, bench.link⟩

-- The next step of the write loop. A batch is sealed when its window is closed
-- from the start or the queue has nothing more for it.
def writerTurn (bench : Bench) : Bench :=
  let engine := bench.engine
  match engine.writer with
  | .ended => bench
  | .idle _ => bench.step .resume
  | .waiting =>
      if engine.phase = .running ∧ engine.hub.pending ≠ [] then bench.step .receive
      else bench.step .wake
  | .holding _ => bench.step .confirm
  | .gathering batch =>
      if engine.config.batchWindow.isZero ∨ engine.hub.pending = [] ∨
          engine.config.batchLimit ≤ Batch.size batch then bench.step .ship
      else bench.step .gather
  | .writing _ _ =>
      match bench.link.write with
      | none => bench
      | some (outcome, link) => { bench with link := link }.step (.write outcome)

-- The write loop to its rest. A command takes at most five of its steps.
def drain (bench : Bench) : Bench :=
  bench.repeated (5 * bench.engine.hub.pending.length + 10) writerTurn

-- The number of steps that a delivery takes, closing the session included.
def deliverySteps (delivery : Delivery) : Nat :=
  delivery.waiting.foldl (fun total (observer, _) => total + (observer delivery.frame).length + 1)
    (delivery.actions.length + 4)

-- A delivery to its end.
def finish (bench : Bench) : Bench :=
  match bench.engine.reader with
  | .delivering delivery =>
      bench.repeated (deliverySteps delivery) fun bench => (bench.step .observe).drain
  | _ => bench

-- One call for a line and what comes of it.
def serveOnce (bench : Bench) : Bench :=
  let bench := bench.step .poll
  match bench.engine.reader with
  | .waiting =>
      match bench.link.next with
      | (none, link) => { bench with link := link }
      | (some outcome, link) => ({ bench with link := link }.step (.read outcome)).finish.drain
  | _ => bench

-- Both loops to their rest.
def settle (bench : Bench) : Bench :=
  let bench := bench.drain
  bench.repeated (bench.link.weight + 1) serveOnce

def call (bench : Bench) (channel : Channel) (operation : Operation) :
    Except Fault Unit × Bench :=
  ((bench.engine.hub.call channel operation).1, (bench.step (.call channel operation)).settle)

def connect (bench : Bench) : Except Fault Unit × Bench :=
  let link := if bench.engine.isOpen then bench.link else bench.link.opened
  let refusal := bench.link.refusal
  ((bench.engine.connect refusal).1, ({ bench with link := link }.step (.connect refusal)).settle)

-- A caller closes. Its call returns when both loops have ended, and a reader
-- that waits is sent away with an error when the link goes.
def close (bench : Bench) : Bench :=
  if bench.engine.isOpen then
    let bench := ((bench.step .shut).step .release).drain
    ((bench.step (.read (.failed ⟨.notConnected, none⟩))).step .poll).step .rejoin
  else bench

-- The far end has more in store.
def feed (bench : Bench) (store : List Inbound) : Bench :=
  settle { bench with link := { bench.link with store := bench.link.store ++ store } }

def setLink (bench : Bench) (change : Link → Link) : Bench :=
  settle { bench with link := change bench.link }

-- A change to the hub that is no work for the loops by itself.
def setHub (bench : Bench) (change : Hub → Hub) : Bench :=
  settle { bench with engine := { bench.engine with hub := change bench.engine.hub } }

end Bench

end QuadCan
