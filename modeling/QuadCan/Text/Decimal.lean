import QuadCan.Text.Utf8

namespace QuadCan.Decimal

-- The shortest decimal form.
def digits (value : Nat) : Bytes :=
  (Nat.toDigits 10 value).map fun digit => UInt8.ofNat digit.toNat

end QuadCan.Decimal
