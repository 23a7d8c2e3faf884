import MiniLisp.Number.Rounding

/-!
# Decimals

A decimal is a whole number of units at some place of the decimal system.  It
stands for an exact value, and for the double nearest to that value.
-/

namespace MiniLisp

/-- The value `coefficient * 10 ^ place`. -/
structure Decimal where
  coefficient : Nat
  place : Int
deriving DecidableEq

namespace Decimal

def bits (decimal : Decimal) : Nat :=
  Double.nearest (decimal.coefficient * Nat.pow 10 decimal.place.toNat * Double.quantaInOne)
    (Nat.pow 10 (-decimal.place).toNat)

/-- The decimal that has exactly the value of a finite double: halving is taking
five tenths, so the smallest positive double is a power of five at some place. -/
def exactly (bits : Nat) : Decimal where
  coefficient := Double.quanta bits * Nat.pow 5 Double.halvings
  place := -(Double.halvings : Int)

theorem five_pow_mul_two_pow (places : Nat) :
    Nat.pow 5 places * 1 <<< places = Nat.pow 10 places := by
  rw [Nat.shiftLeft_eq, Nat.one_mul]
  exact (Nat.mul_pow 5 2 places).symm

/-- The exact decimal of a finite double reads back as the double. -/
theorem bits_exactly {bits : Nat} (isFinite : bits < Double.infinityBits) :
    (exactly bits).bits = bits := by
  have scaled := five_pow_mul_two_pow Double.halvings
  have positive : 0 < Nat.pow 10 Double.halvings := Nat.pow_pos (by decide)
  have above : (-(Double.halvings : Int)).toNat = 0 := by omega
  have below : (- -(Double.halvings : Int)).toNat = Double.halvings := by omega
  have noTens : Nat.pow 10 0 = 1 := rfl
  rw [Decimal.bits, exactly, above, below, noTens, Double.quantaInOne, Nat.mul_one, Nat.mul_assoc,
    scaled, Double.nearest_quanta_mul bits positive]
  omega

end Decimal

end MiniLisp
