import Taskbook.Text.Letters
import Taskbook.Text.Numerals
import Taskbook.Text.Unprinted

/-! Classes of characters, by the Unicode properties that name them. A class is a table of closed
ranges in increasing order. -/

set_option autoImplicit false

namespace Taskbook.Text

/-- Whether a table of increasing ranges holds `n`; the search stops at the first range above it. -/
def inRanges (n : Nat) : List (Nat × Nat) → Bool
  | [] => false
  | (low, high) :: rest => if n < low then false else n ≤ high || inRanges n rest

/-- The code points of the property White_Space. -/
def blankRanges : List (Nat × Nat) := [
  (0x9, 0xD), (0x20, 0x20), (0x85, 0x85), (0xA0, 0xA0), (0x1680, 0x1680), (0x2000, 0x200A),
  (0x2028, 0x2029), (0x202F, 0x202F), (0x205F, 0x205F), (0x3000, 0x3000)]

def isBlank (c : Char) : Bool := inRanges c.toNat blankRanges

def isLetter (c : Char) : Bool := inRanges c.toNat letterRanges

/-- A letter, or a character of one of the number categories. -/
def isAlphanumeric (c : Char) : Bool := isLetter c || inRanges c.toNat numeralRanges

def isNameChar (c : Char) : Bool := isAlphanumeric c || c == '_'

/-- A character other than a space that a quoted text spells by its number. -/
def isUnprinted (c : Char) : Bool := c != ' ' && inRanges c.toNat unprintedRanges

def allBlank (s : List Char) : Bool := s.all isBlank

private theorem isAlphanumeric_of_isLetter {c : Char} (h : isLetter c = true) :
    isAlphanumeric c = true := by
  simp [isAlphanumeric, h]

theorem isNameChar_of_isLetter {c : Char} (h : isLetter c = true) : isNameChar c = true := by
  simp [isNameChar, isAlphanumeric_of_isLetter h]

end Taskbook.Text
