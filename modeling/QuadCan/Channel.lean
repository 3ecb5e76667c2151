import QuadCan.Fault

namespace QuadCan

-- The buses that share the line.
abbrev Channel := Fin 4

namespace Channel

def count : Nat := 4

def all : List Channel := [0, 1, 2, 3]

-- The channel of lines that name none.
def unnamed : Channel := 0

-- The channel of a number. A device has no others, and these are refused.
def ofNumber (number : Nat) : Except Fault Channel :=
  if h : number < count then .ok ⟨number, h⟩ else .error (.invalidChannel number count)

-- The channel that the first byte of a line names: a digit from 0 to 3.
def ofDigit? (byte : UInt8) : Option Channel :=
  if h : 48 ≤ byte.toNat ∧ byte.toNat ≤ 51 then some ⟨byte.toNat - 48, by omega⟩ else none

end Channel

end QuadCan
