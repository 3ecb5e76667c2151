import QuadCan.Text.Hidden.Marks
import QuadCan.Text.Hidden.Unassigned

-- The characters that leave no mark of their own on a page, as of Unicode 17.
-- Each pair is a range with both ends.
namespace QuadCan.Hidden

-- Control characters.
def controls : List (Nat × Nat) := [
  (0x0, 0x1F), (0x7F, 0x9F)]

-- Spaces and separators other than the blank.
def spaces : List (Nat × Nat) := [
  (0xA0, 0xA0), (0x1680, 0x1680), (0x2000, 0x200A), (0x2028, 0x2029), (0x202F, 0x202F),
  (0x205F, 0x205F), (0x3000, 0x3000)]

-- Characters that steer the layout of others.
def formats : List (Nat × Nat) := [
  (0xAD, 0xAD), (0x600, 0x605), (0x61C, 0x61C), (0x6DD, 0x6DD), (0x70F, 0x70F), (0x890, 0x891),
  (0x8E2, 0x8E2), (0x180E, 0x180E), (0x200B, 0x200F), (0x202A, 0x202E), (0x2060, 0x2064),
  (0x2066, 0x206F), (0xFEFF, 0xFEFF), (0xFFF9, 0xFFFB), (0x110BD, 0x110BD), (0x110CD, 0x110CD),
  (0x13430, 0x1343F), (0x1BCA0, 0x1BCA3), (0x1D173, 0x1D17A), (0xE0001, 0xE0001),
  (0xE0020, 0xE007F)]

-- Letters that hold a place and are not drawn.
def fillers : List (Nat × Nat) := [
  (0x115F, 0x1160), (0x3164, 0x3164), (0xFFA0, 0xFFA0)]

-- Characters whose meaning is left to private agreement.
def agreed : List (Nat × Nat) := [
  (0xE000, 0xF8FF), (0xF0000, 0xFFFFD), (0x100000, 0x10FFFD)]

def ranges : List (Nat × Nat) :=
  controls ++ spaces ++ formats ++ fillers ++ agreed ++ Marks.ranges ++ Unassigned.ranges

def isHidden (char : Char) : Bool :=
  ranges.any fun (first, last) => first ≤ char.toNat && char.toNat ≤ last

end QuadCan.Hidden
