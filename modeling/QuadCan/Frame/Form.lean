import QuadCan.Text.Utf8

namespace QuadCan

-- What a frame asks of the bus: to carry data, to request data, or to carry
-- data in the flexible format at one rate or at two.
inductive FrameKind where
  | data
  | remote
  | flexible
  | switched
deriving DecidableEq, Repr

-- A kind of frame together with the width of its identifier. The first letter
-- of a line names one, and each letter only one.
structure Form where
  kind : FrameKind
  extended : Bool
deriving DecidableEq, Repr

namespace Form

def letter (form : Form) : UInt8 :=
  match form.kind, form.extended with
  | .data, false => 't'.toUInt8
  | .data, true => 'T'.toUInt8
  | .remote, false => 'r'.toUInt8
  | .remote, true => 'R'.toUInt8
  | .flexible, false => 'd'.toUInt8
  | .flexible, true => 'D'.toUInt8
  | .switched, false => 'b'.toUInt8
  | .switched, true => 'B'.toUInt8

-- All forms: a short identifier before the long one for each kind.
def all : List Form :=
  [.data, .remote, .flexible, .switched].flatMap fun kind => [⟨kind, false⟩, ⟨kind, true⟩]

def ofLetter? (letter : UInt8) : Option Form :=
  all.find? (·.letter == letter)

-- The number of hex digits of an identifier.
def idDigits (form : Form) : Nat :=
  if form.extended then 8 else 3

theorem idDigits_pos (form : Form) : 0 < form.idDigits := by
  unfold idDigits
  split <;> decide

theorem idDigits_le (form : Form) : form.idDigits ≤ 8 := by
  unfold idDigits
  split <;> decide

theorem ofLetter?_letter (form : Form) : ofLetter? form.letter = some form := by
  obtain ⟨kind, extended⟩ := form
  cases kind <;> cases extended <;> decide

theorem letter_of_ofLetter? {letter : UInt8} {form : Form} (h : ofLetter? letter = some form) :
    form.letter = letter := by
  simpa using List.find?_some h

end Form

end QuadCan
