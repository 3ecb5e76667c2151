import QuadCan.Bus.Setting
import QuadCan.Fault
import QuadCan.Text.Decimal
import QuadCan.Text.Record

namespace QuadCan

-- Sample points in permille, for either phase of a bit or both.
structure SamplePoint where
  nominal : Option UInt16 := none
  data : Option UInt16 := none
deriving DecidableEq, Repr

namespace SamplePoint

def least : UInt16 := 750

def most : UInt16 := 875

def check (permille : UInt16) : Except Fault UInt16 :=
  if least ≤ permille ∧ permille ≤ most then .ok permille
  else .error (.invalidSamplePoint permille)

-- The command of one phase.
def phase (setting : Setting) (permille : Option UInt16) : Except Fault (List Bytes) :=
  match permille with
  | none => .ok []
  | some permille =>
      (check permille).map fun value => [setting.letter :: Decimal.digits value.toNat]

-- The commands of both phases. One bad value refuses both.
def commands (point : SamplePoint) : Except Fault (List Bytes) := do
  let nominal ← phase .samplePoint point.nominal
  let data ← phase .dataSamplePoint point.data
  return nominal ++ data

def record (point : SamplePoint) : String :=
  let value := fun permille : Option UInt16 =>
    Record.option (permille.map fun p => toString p.toNat)
  Record.text "SamplePoint" [("nominal", value point.nominal), ("data", value point.data)]

end SamplePoint

end QuadCan
