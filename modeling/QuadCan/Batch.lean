import QuadCan.Command

namespace QuadCan.Batch

-- The bytes of a batch: each command with its delimiter.
def wire (batch : List Command) : Bytes :=
  batch.flatMap fun command => command ++ [Command.delimiter]

-- The number of these bytes.
def size : List Command → Nat
  | [] => 0
  | command :: batch => command.length + 1 + size batch

-- What becomes of the next command: the batch is full and it stays in the
-- queue, it joins the batch, or it is taken out and held back.
inductive Fit where
  | full
  | joins
  | overflows
deriving DecidableEq, Repr

def fit (limit size : Nat) (command : Command) : Fit :=
  if limit ≤ size then .full
  else if limit < size + command.length + 1 then .overflows
  else .joins

-- How a batch came out: its commands, the command held back for the next batch,
-- and the queue that is left.
structure Result where
  batch : List Command
  carry : Option Command
  queue : List Command
deriving DecidableEq, Repr

-- The commands that join a batch of the given size in a window that does not
-- close. An empty queue ends the batch.
def gather (limit : Nat) (size : Nat) : List Command → Result
  | [] => ⟨[], none, []⟩
  | command :: queue =>
      match fit limit size command with
      | .full => ⟨[], none, command :: queue⟩
      | .overflows => ⟨[], some command, queue⟩
      | .joins =>
          let result := gather limit (size + command.length + 1) queue
          { result with batch := command :: result.batch }

-- The batch that begins with a command. The limit does not bind the first
-- command, and in a closed window it stays alone.
def collect (limit : Nat) (windowOpen : Bool) (first : Command) (queue : List Command) : Result :=
  if windowOpen then
    let result := gather limit (first.length + 1) queue
    { result with batch := first :: result.batch }
  else ⟨[first], none, queue⟩

-- The next batch begins with the command held back, else with the head of the queue.
def next (limit : Nat) (windowOpen : Bool) (carry : Option Command) (queue : List Command) :
    Option Result :=
  match carry, queue with
  | some first, queue => some (collect limit windowOpen first queue)
  | none, first :: queue => some (collect limit windowOpen first queue)
  | none, [] => none

end QuadCan.Batch
