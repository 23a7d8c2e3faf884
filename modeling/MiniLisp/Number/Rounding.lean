import MiniLisp.Number.Double

/-!
# The nearest double

A positive fraction lies between two neighbouring doubles, and the nearer of
them stands for it; of two that are equally near, the one whose bits are even.
The binade of the result is found from the whole part of the fraction, and a
quotient rounded within that binade may reach the first double of the next,
whose bits it then gives.  What lies beyond the largest double becomes infinite.
-/

namespace MiniLisp

/-- A quotient rounded to the nearest whole number, and a half to the even one. -/
def divideToEven (numerator denominator : Nat) : Nat :=
  let quotient := numerator / denominator
  let twice := 2 * (numerator % denominator)
  if twice < denominator then quotient
  else if denominator < twice then quotient + 1
  else quotient + quotient % 2

/-- The bits of the double nearest to a fraction, which counts the smallest
positive double. -/
def Double.nearest (numerator denominator : Nat) : Nat :=
  let binade := (numerator / denominator).log2 - 52
  min (binade * binadeSize + divideToEven numerator (denominator <<< binade)) infinityBits

theorem divideToEven_mul_right (quotient : Nat) {denominator : Nat} (positive : 0 < denominator) :
    divideToEven (quotient * denominator) denominator = quotient := by
  simp [divideToEven, positive]

theorem Double.nearest_quanta_mul (bits : Nat) {scale : Nat} (positive : 0 < scale) :
    nearest (quanta bits * scale) scale = min bits infinityBits := by
  have whole : quanta bits * scale / scale = quanta bits := Nat.mul_div_cancel _ positive
  have factored : quanta bits * scale =
      (bits - binade bits * binadeSize) * (scale <<< binade bits) := by
    rw [quanta, Nat.shiftLeft_eq, Nat.shiftLeft_eq, Nat.mul_assoc, Nat.mul_comm scale]
  have rounded : divideToEven (quanta bits * scale) (scale <<< binade bits) =
      bits - binade bits * binadeSize := by
    rw [factored]
    refine divideToEven_mul_right _ ?_
    rw [Nat.shiftLeft_eq]
    exact Nat.mul_pos positive (Nat.two_pow_pos _)
  simp only [nearest, whole, log2_quanta, rounded]
  rw [Nat.add_sub_cancel' (binade_mul_le bits)]

/-- Rounding adds nothing to a quotient, or one where the remainder is at least
a half; it adds nothing where the remainder is at most a half, or one. -/
theorem divideToEven_cases (numerator denominator : Nat) :
    (divideToEven numerator denominator = numerator / denominator ∧
        2 * (numerator % denominator) ≤ denominator) ∨
      (divideToEven numerator denominator = numerator / denominator + 1 ∧
        denominator ≤ 2 * (numerator % denominator)) := by
  simp only [divideToEven]
  split
  · exact .inl ⟨rfl, by omega⟩
  · split
    · exact .inr ⟨rfl, by omega⟩
    · rcases Nat.mod_two_eq_zero_or_one (numerator / denominator) with even | odd
      · exact .inl ⟨by omega, by omega⟩
      · exact .inr ⟨by omega, by omega⟩

end MiniLisp
