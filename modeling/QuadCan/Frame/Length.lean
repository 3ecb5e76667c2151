namespace QuadCan.Length

-- The payload lengths that a frame can announce, by length code.
def table : List Nat :=
  [0, 1, 2, 3, 4, 5, 6, 7, 8, 12, 16, 20, 24, 32, 48, 64]

-- The longest payload of a classic frame.
def longestClassic : Nat := 8

-- The longest payload of any frame.
def longest : Nat := 64

def lastCode : Nat := 15

-- The length that a code announces. Past the table every code means the longest.
def ofCode (code : Nat) : Nat :=
  table.getD code longest

-- The least code whose length holds a payload of the given length, and the
-- last code where none does.
def code (length : Nat) : Nat :=
  (table.findIdx? (length ≤ ·)).getD lastCode

theorem ofCode_code {length : Nat} (h : length ∈ table) : ofCode (code length) = length := by
  have hall : ∀ length ∈ table, ofCode (code length) = length := by decide
  exact hall length h

theorem code_lt (length : Nat) : code length < 16 := by
  unfold code
  cases h : table.findIdx? (length ≤ ·) with
  | none => decide
  | some index => exact (List.findIdx?_eq_some_iff_getElem.mp h).1

end QuadCan.Length
