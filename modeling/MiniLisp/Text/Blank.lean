import MiniLisp.Text.CodePoints

/-!
# Blank characters

A character is blank when Unicode gives it the property `White_Space`.  Blank
characters separate tokens, and a line of nothing else asks for nothing.  The
property is kept as a table of code point ranges, which takes in every
character that the standard library already calls whitespace.
-/

namespace MiniLisp

/-- The code points with the Unicode property `White_Space`. -/
def blankRanges : List (Nat × Nat) :=
  [(0x09, 0x0D), (0x20, 0x20), (0x85, 0x85), (0xA0, 0xA0), (0x1680, 0x1680),
    (0x2000, 0x200A), (0x2028, 0x2029), (0x202F, 0x202F), (0x205F, 0x205F),
    (0x3000, 0x3000)]

def isBlank (char : Char) : Bool :=
  isWithin blankRanges char

def trimBlank (characters : List Char) : List Char :=
  ((characters.dropWhile isBlank).reverse.dropWhile isBlank).reverse

theorem isBlank_of_isWhitespace (char : Char) (isSpace : char.isWhitespace = true) :
    isBlank char = true := by
  simp only [Char.isWhitespace, Bool.or_eq_true, decide_eq_true_eq] at isSpace
  rcases isSpace with ((rfl | rfl) | rfl) | rfl <;> decide

end MiniLisp
