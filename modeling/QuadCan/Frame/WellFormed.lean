import QuadCan.Frame.Basic

namespace QuadCan.Frame

-- The frames that a line carries without loss. A short identifier fits its three
-- digits, only the flexible format switches rates and it has no remote frames,
-- and the length is one that a code stands for and that the data have.
structure WellFormed (frame : Frame) : Prop where
  id_lt : frame.extended = false → frame.id.toNat < 0x1000
  fd_of_brs : frame.brs = true → frame.fd = true
  data_of_fd : frame.fd = true → frame.remote = false
  request : frame.remote = true → frame.data = [] ∧ frame.dlc.toNat ∈ Length.table
  carries : frame.remote = false →
    frame.data.length ∈ Length.table ∧ frame.dlc.toNat = frame.data.length

theorem wellFormed_iff (frame : Frame) : frame.WellFormed ↔
    (frame.extended = false → frame.id.toNat < 0x1000) ∧
    (frame.brs = true → frame.fd = true) ∧
    (frame.fd = true → frame.remote = false) ∧
    (frame.remote = true → frame.data = [] ∧ frame.dlc.toNat ∈ Length.table) ∧
    (frame.remote = false →
      frame.data.length ∈ Length.table ∧ frame.dlc.toNat = frame.data.length) :=
  ⟨fun ⟨a, b, c, d, e⟩ => ⟨a, b, c, d, e⟩,
    fun ⟨a, b, c, d, e⟩ => ⟨a, b, c, d, e⟩⟩

instance (frame : Frame) : Decidable frame.WellFormed :=
  decidable_of_iff' _ (wellFormed_iff frame)

end QuadCan.Frame
