import QuadCan.Text.Utf8

namespace QuadCan.Hex

-- The upper-case digit of a value below sixteen.
def digit (value : Nat) : UInt8 :=
  if value < 10 then UInt8.ofNat (48 + value) else UInt8.ofNat (55 + value)

-- The value of a digit in either letter case.
def value? (byte : UInt8) : Option Nat :=
  if 48 ≤ byte && byte ≤ 57 then some (byte.toNat - 48)
  else if 97 ≤ byte && byte ≤ 102 then some (byte.toNat - 87)
  else if 65 ≤ byte && byte ≤ 70 then some (byte.toNat - 55)
  else none

-- The number that a field of digits writes, modulo the word size. Signs,
-- blanks and separators are no digits.
def field? (digits : Bytes) : Option UInt32 :=
  digits.foldlM (fun total byte => (value? byte).map fun value => total * 16 + UInt32.ofNat value) 0

-- The given number of lowest digits.
def padded : Nat → Nat → Bytes
  | 0, _ => []
  | width + 1, value => padded width (value / 16) ++ [digit (value % 16)]

-- All digits of a value, and leading zeros up to the given width.
def upper (width value : Nat) : Bytes :=
  padded (max width (value.log2 / 4 + 1)) value

def ofByte (byte : UInt8) : Bytes :=
  padded 2 byte.toNat

end QuadCan.Hex
