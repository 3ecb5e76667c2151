namespace QuadCan

-- The serial line carries bytes, and every length that is limited or counted is in bytes.
abbrev Bytes := List UInt8

namespace Utf8

def encode (text : List Char) : Bytes :=
  text.flatMap String.utf8EncodeChar

-- Stands where bytes are no part of a character.
def replacement : Char := '\uFFFD'

def isTail (byte : UInt8) : Bool :=
  0x80 ≤ byte && byte ≤ 0xBF

-- The second byte of a three byte character. The narrower ranges shut out
-- overlong forms and surrogates.
def isSecondOfThree (lead byte : UInt8) : Bool :=
  if lead = 0xE0 then 0xA0 ≤ byte && byte ≤ 0xBF
  else if lead = 0xED then 0x80 ≤ byte && byte ≤ 0x9F
  else isTail byte

-- The second byte of a four byte character. The narrower ranges shut out
-- overlong forms and values past the last code point.
def isSecondOfFour (lead byte : UInt8) : Bool :=
  if lead = 0xF0 then 0x90 ≤ byte && byte ≤ 0xBF
  else if lead = 0xF4 then 0x80 ≤ byte && byte ≤ 0x8F
  else isTail byte

def two (lead second : UInt8) : Char :=
  Char.ofNat (lead.toNat % 32 * 64 + second.toNat % 64)

def three (lead second third : UInt8) : Char :=
  Char.ofNat (lead.toNat % 16 * 4096 + second.toNat % 64 * 64 + third.toNat % 64)

def four (lead second third fourth : UInt8) : Char :=
  Char.ofNat (lead.toNat % 8 * 262144 + second.toNat % 64 * 4096 +
    third.toNat % 64 * 64 + fourth.toNat % 64)

-- The first character of a non-empty byte sequence and the bytes after it.
-- Where no character stands, the longest run of bytes that could have begun
-- one counts as a single replacement character.
def first (lead : UInt8) (rest : Bytes) : Char × Bytes :=
  if lead < 0x80 then (Char.ofNat lead.toNat, rest)
  else if 0xC2 ≤ lead && lead ≤ 0xDF then
    match rest with
    | second :: rest2 =>
        if isTail second then (two lead second, rest2) else (replacement, rest)
    | [] => (replacement, rest)
  else if 0xE0 ≤ lead && lead ≤ 0xEF then
    match rest with
    | second :: rest2 =>
        if isSecondOfThree lead second then
          match rest2 with
          | third :: rest3 =>
              if isTail third then (three lead second third, rest3) else (replacement, rest2)
          | [] => (replacement, rest2)
        else (replacement, rest)
    | [] => (replacement, rest)
  else if 0xF0 ≤ lead && lead ≤ 0xF4 then
    match rest with
    | second :: rest2 =>
        if isSecondOfFour lead second then
          match rest2 with
          | third :: rest3 =>
              if isTail third then
                match rest3 with
                | fourth :: rest4 =>
                    if isTail fourth then (four lead second third fourth, rest4)
                    else (replacement, rest3)
                | [] => (replacement, rest3)
              else (replacement, rest2)
          | [] => (replacement, rest2)
        else (replacement, rest)
    | [] => (replacement, rest)
  else (replacement, rest)

theorem length_first_le (lead : UInt8) (rest : Bytes) :
    (first lead rest).2.length ≤ rest.length := by
  unfold first
  repeat' split
  all_goals simp only [List.length_cons]; omega

-- Decoding that never fails.
def decode (bytes : Bytes) : List Char :=
  match bytes with
  | [] => []
  | lead :: rest => (first lead rest).1 :: decode (first lead rest).2
termination_by bytes.length
decreasing_by
  have := length_first_le lead rest
  simp only [List.length_cons]
  omega

def text (bytes : Bytes) : String :=
  String.ofList (decode bytes)

def ofString (text : String) : Bytes :=
  encode text.toList

-- The bytes of the text that the given bytes decode to.
def repair (bytes : Bytes) : Bytes :=
  encode (decode bytes)

-- Bytes that are the encoding of some text are left alone by a repair.
def isValid (bytes : Bytes) : Bool :=
  repair bytes == bytes

end Utf8

end QuadCan
