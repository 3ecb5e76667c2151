namespace QuadCan

-- A span of time in whole nanoseconds.
structure Duration where
  nanoseconds : Nat
deriving DecidableEq, Repr

namespace Duration

def microseconds (count : Nat) : Duration :=
  ⟨count * 1000⟩

def toMicroseconds (duration : Duration) : Nat :=
  duration.nanoseconds / 1000

def isZero (duration : Duration) : Bool :=
  duration.nanoseconds == 0

-- The digits of a fraction with as many places as given, less the zeros at its end.
private def fraction (places value : Nat) : List Char :=
  let digits := Nat.toDigits 10 value
  let all := List.replicate (places - digits.length) '0' ++ digits
  (all.reverse.dropWhile (· == '0')).reverse

private def inUnit (whole rest places : Nat) (name : String) : String :=
  if rest = 0 then toString whole ++ name
  else toString whole ++ "." ++ String.ofList (fraction places rest) ++ name

-- The largest unit whose whole part is not zero, with the exact fraction.
def text (duration : Duration) : String :=
  let count := duration.nanoseconds
  if 1000000000 ≤ count then inUnit (count / 1000000000) (count % 1000000000) 9 "s"
  else if 1000000 ≤ count then inUnit (count / 1000000) (count % 1000000) 6 "ms"
  else if 1000 ≤ count then inUnit (count / 1000) (count % 1000) 3 "µs"
  else inUnit count 0 0 "ns"

end Duration

end QuadCan
