import QuadCan.Bus.Setting
import QuadCan.Text.Decimal
import QuadCan.Text.Record

namespace QuadCan

-- The registers that divide a controller's clock into the segments of a bit.
structure Timing where
  clockMegahertz : UInt32
  prescaler : UInt32
  seg1 : UInt32
  seg2 : UInt32
  sjw : UInt32
  tdc : Bool := false
deriving DecidableEq, Repr

namespace Timing

-- The product, or the greatest word of 64 bits where it does not fit.
def saturatingMul (a b : UInt64) : UInt64 :=
  UInt64.ofNat (min (a.toNat * b.toNat) 0xFFFFFFFFFFFFFFFF)

-- The time quanta of a bit. One is the synchronization segment.
def quanta (timing : Timing) : UInt64 :=
  1 + timing.seg1.toUInt64 + timing.seg2.toUInt64

-- The quanta up to the sample point.
def sampled (timing : Timing) : UInt64 :=
  1 + timing.seg1.toUInt64

-- Bits per second, or the greatest word of 32 bits where they do not fit. A prescaler of
-- zero counts as one.
def bitrate (timing : Timing) : UInt32 :=
  let divisor := saturatingMul (max timing.prescaler 1).toUInt64 timing.quanta
  let rate := timing.clockMegahertz.toUInt64 * 1000000 / divisor
  UInt32.ofNat (min rate.toNat 0xFFFFFFFF)

-- The sample point in permille of a bit.
def samplePoint (timing : Timing) : UInt32 :=
  (timing.sampled * 1000 / timing.quanta).toUInt32

def registers (timing : Timing) : List Nat :=
  [timing.clockMegahertz.toNat, timing.prescaler.toNat, timing.seg1.toNat, timing.seg2.toNat,
    timing.sjw.toNat, timing.tdc.toNat]

-- The registers in decimal, joined by underscores.
def fields (timing : Timing) : Bytes :=
  ['_'.toUInt8].intercalate (timing.registers.map Decimal.digits)

def nominalLiteral (timing : Timing) : Bytes :=
  Setting.nominalTiming.letter :: timing.fields

def dataLiteral (timing : Timing) : Bytes :=
  Setting.dataTiming.letter :: timing.fields

def text (timing : Timing) : String :=
  "Clock: " ++ toString timing.clockMegahertz.toNat ++ " MHz\nPrescaler: " ++
    toString timing.prescaler.toNat ++ "\nSeg 1: " ++ toString timing.seg1.toNat ++
    "\nSeg 2: " ++ toString timing.seg2.toNat ++ "\nSJW: " ++ toString timing.sjw.toNat ++
    "\nTDC: " ++ toString timing.tdc

def record (timing : Timing) : String :=
  Record.text "BitTiming" [
    ("clock_mhz", toString timing.clockMegahertz.toNat),
    ("prescaler", toString timing.prescaler.toNat),
    ("seg1", toString timing.seg1.toNat),
    ("seg2", toString timing.seg2.toNat),
    ("sjw", toString timing.sjw.toNat),
    ("tdc", toString timing.tdc)]

end Timing

end QuadCan
