import QuadCan.Fault

namespace QuadCan.Rate

-- The nominal bit rates that have a number of their own, in the order of the numbers.
def nominal : List UInt32 :=
  [10000, 20000, 50000, 100000, 125000, 250000, 500000, 800000, 1000000]

def nominalIndex? (bitrate : UInt32) : Option Nat :=
  nominal.findIdx? (· == bitrate)

def leastMegabits : UInt32 := 1

def mostMegabits : UInt32 := 15

-- The number of a data phase rate: its megabits per second, if these are whole
-- and the adapter has the rate.
def dataIndex (bitrate : UInt32) : Except Fault UInt32 :=
  let megabits := bitrate / 1000000
  if bitrate % 1000000 = 0 ∧ leastMegabits ≤ megabits ∧ megabits ≤ mostMegabits then
    .ok megabits
  else .error (.unsupportedDataBitrate bitrate)

end QuadCan.Rate
