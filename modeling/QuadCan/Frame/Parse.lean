import QuadCan.Frame.Basic
import QuadCan.Text.Hex

namespace QuadCan

-- Why a line is not a frame.
inductive DecodeError where
  | empty
  | notAFrame (char : Char)
  | tooShort (needed actual : Nat)
  | invalidHex (field : String)
  | invalidLengthCode (char : Char)
deriving DecidableEq, Repr

namespace DecodeError

def message : DecodeError → String
  | empty => "empty line"
  | notAFrame char => "not a frame command: '" ++ char.toString ++ "'"
  | tooShort needed actual =>
      "line too short: need " ++ toString needed ++ " characters, got " ++ toString actual
  | invalidHex field => "invalid hex field: " ++ field
  | invalidLengthCode char => "invalid length code: '" ++ char.toString ++ "'"

-- An adapter also sends acknowledgements and echoes. A line without a frame
-- letter is one of these and not a damaged frame.
def isNoise : DecodeError → Bool
  | empty | notAFrame _ => true
  | _ => false

end DecodeError

namespace Frame

-- The number that a field of hex digits writes. A bad field is reported whole.
def field (digits : Bytes) : Except DecodeError UInt32 :=
  match Hex.field? digits with
  | some value => .ok value
  | none => .error (.invalidHex (Utf8.text digits))

-- The bytes that pairs of hex digits write. The first bad pair is reported,
-- and a digit without a partner is left out.
def octets : Bytes → Except DecodeError Bytes
  | high :: low :: rest =>
      match field [high, low] with
      | .ok value => (octets rest).map (UInt8.ofNat value.toNat :: ·)
      | .error cause => .error cause
  | _ => .ok []

-- The rest of a line after the identifier: the length code and the payload.
-- The size is that of the whole line.
def parseLength (form : Form) (id : UInt32) (size : Nat) (byte : UInt8) (rest : Bytes) :
    Except DecodeError Frame :=
  match Hex.value? byte with
  | none => .error (.invalidLengthCode (Char.ofNat byte.toNat))
  | some code =>
      let length := Length.ofCode code
      if form.kind = .remote then .ok (ofForm form id [] (UInt8.ofNat length))
      else if rest.length < 2 * length then
        .error (.tooShort (form.idDigits + 2 + 2 * length) size)
      else
        (octets (rest.take (2 * length))).map fun data =>
          ofForm form id data (UInt8.ofNat length)

-- The rest of a line after its letter.
def parseForm (form : Form) (size : Nat) (rest : Bytes) : Except DecodeError Frame :=
  match rest.drop form.idDigits with
  | [] => .error (.tooShort (form.idDigits + 2) size)
  | byte :: payload =>
      match field (rest.take form.idDigits) with
      | .ok id => parseLength form id size byte payload
      | .error cause => .error cause

-- A line less its channel: a letter, the identifier, a length code and the
-- payload that it announces. What follows the payload is ignored, and the
-- first rule that is broken is reported.
def parse (line : Bytes) : Except DecodeError Frame :=
  match line with
  | [] => .error .empty
  | letter :: rest =>
      match Form.ofLetter? letter with
      | none => .error (.notAFrame (Utf8.first letter rest).1)
      | some form => parseForm form line.length rest

def parse? (line : Bytes) : Option Frame :=
  (parse line).toOption

end Frame

end QuadCan
