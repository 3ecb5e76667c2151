import QuadCan.Engine.Basic
import QuadCan.Line.Splitter

namespace QuadCan

-- One thing that the far end of a scripted link has in store for the reader.
inductive Inbound where
  | read (read : Read)
  | crash
deriving DecidableEq, Repr

namespace Inbound

-- An upper bound on the calls for a line that it takes to use up an entry.
def weight : Inbound → Nat
  | read (.data bytes) => bytes.length + 1
  | read (.failed _) => 1
  | crash => 1

end Inbound

-- A link that lives in memory: what it has in store for the reader, and what it
-- does to writes. With a splitter the store is a stream of bytes, and without
-- one each entry is a line.
structure Link where
  store : List Inbound := []
  splitter : Option Splitter := none
  held : Bool := false
  severed : Bool := false
  crashing : Bool := false
  failing : Bool := false
  refusal : Option Fault := none
deriving DecidableEq, Repr

namespace Link

-- The reads before the next crash.
def reads : List Inbound → List Read
  | .read read :: store => read.pieces ++ reads store
  | _ => []

-- What comes from the next crash on.
def fromCrash : List Inbound → List Inbound
  | .read _ :: store => fromCrash store
  | store => store

-- A line has to be text.
def lineOutcome : Read → ReadOutcome
  | .failed error => .failed error
  | .data bytes => if Utf8.isValid bytes then .line bytes else .failed ⟨.invalidData, none⟩

-- The outcome of a call for a line. Without one the reader has to wait.
def next (link : Link) : Option ReadOutcome × Link :=
  match link.splitter with
  | none =>
      match link.store with
      | [] => (none, link)
      | .crash :: store => (some .crashed, { link with store := store })
      | .read read :: store => (some (lineOutcome read), { link with store := store })
  | some splitter =>
      let later := fromCrash link.store
      match splitter.readLine (reads link.store) with
      | (.line bytes, splitter, rest) =>
          (some (.line (Utf8.repair bytes)),
            { link with splitter := some splitter, store := rest.map .read ++ later })
      | (.failed error, splitter, rest) =>
          (some (.failed error),
            { link with splitter := some splitter, store := rest.map .read ++ later })
      | (.starved, splitter, _) =>
          match later with
          | [] => (none, { link with splitter := some splitter, store := [] })
          | _ :: store => (some .crashed, { link with splitter := some splitter, store := store })

-- An upper bound on the calls for a line until the reader has to wait.
def weight (link : Link) : Nat :=
  link.store.foldl (fun total entry => total + entry.weight)
    ((link.splitter.map (·.buffer.length)).getD 0)

-- The outcome of a write. Without one the writer has to wait. A crash that is
-- due comes first, also for a write that was cut off.
def write (link : Link) : Option (WriteOutcome × Link) :=
  if link.held then none
  else if link.crashing then some (.crashed, { link with crashing := false, severed := false })
  else if link.severed then some (.failed, { link with severed := false })
  else if link.failing then some (.failed, link)
  else some (.written, link)

-- Each session has a splitter of its own. What the old one held is gone.
def opened (link : Link) : Link :=
  { link with splitter := link.splitter.map fun _ => {} }

-- When the link goes, a write that was held up fails, and none is held up any more.
def gone (link : Link) (writer : Writer) : Link :=
  let blocked := match writer with
    | .writing _ _ => link.held
    | _ => false
  { link with held := false, severed := blocked }

end Link

end QuadCan
