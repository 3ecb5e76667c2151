import QuadCan.Batch

namespace QuadCan.Batch

theorem wire_cons (command : Command) (batch : List Command) :
    wire (command :: batch) = command ++ Command.delimiter :: wire batch := by
  simp [wire]

theorem wire_append (first second : List Command) :
    wire (first ++ second) = wire first ++ wire second :=
  List.flatMap_append

theorem wire_flatten (batches : List (List Command)) :
    wire batches.flatten = batches.flatMap wire := by
  induction batches with
  | nil => rfl
  | cons batch batches ih =>
    rw [List.flatten_cons, wire_append, ih, List.flatMap_cons]

theorem length_wire (batch : List Command) : (wire batch).length = size batch := by
  induction batch with
  | nil => rfl
  | cons command batch ih =>
    rw [wire_cons, List.length_append, List.length_cons, ih, size]
    omega

theorem size_append (batch others : List Command) :
    size (batch ++ others) = size batch + size others := by
  rw [← length_wire, wire_append, List.length_append, length_wire, length_wire]

theorem size_concat (batch : List Command) (command : Command) :
    size (batch ++ [command]) = size batch + command.length + 1 :=
  size_append batch [command]

end QuadCan.Batch
