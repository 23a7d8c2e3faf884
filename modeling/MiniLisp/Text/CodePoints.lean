/-!
# Code points in ranges

A property of characters that Unicode defines is kept as a table of code point
ranges.  A range takes in both its ends.
-/

namespace MiniLisp

/-- Whether the code point of a character is in one of the ranges. -/
def isWithin (ranges : List (Nat × Nat)) (char : Char) : Bool :=
  ranges.any fun range => range.1 ≤ char.toNat && char.toNat ≤ range.2

theorem isWithin_eq_true_iff {ranges : List (Nat × Nat)} {char : Char} :
    isWithin ranges char = true ↔
      ∃ range ∈ ranges, range.1 ≤ char.toNat ∧ char.toNat ≤ range.2 := by
  simp [isWithin]

end MiniLisp
