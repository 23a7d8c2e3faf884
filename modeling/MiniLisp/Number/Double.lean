/-!
# Doubles as whole numbers

Every finite double is, up to its sign, a whole number of the smallest positive
one.  Its bits without the sign say how many: the low 52 bits count quanta of the
double's binade, the bits above them number the binade, and each binade after the
first two doubles the quantum.  There are `2 ^ 1074` of the smallest positive
double in one.

The bits without the sign grow with the value they stand for, so they also serve
to compare magnitudes, and infinity comes right after the largest finite one.
-/

namespace MiniLisp

namespace Double

def signBit : Nat := 0x8000000000000000

/-- The number of doubles in a binade, `2 ^ 52`. -/
def binadeSize : Nat := 0x10000000000000

/-- The bits of positive infinity, after two thousand and forty-seven binades. -/
def infinityBits : Nat := 0x7FF0000000000000

def nanBits : Nat := 0x7FF8000000000000

/-- How often one has to be halved to get the smallest positive double. -/
@[irreducible] def halvings : Nat := 1074

/-- The number of smallest positive doubles in one. -/
def quantaInOne : Nat := 1 <<< halvings

def magnitudeBits (double : Float) : Nat :=
  double.toBits.toNat % signBit

def isNegative (double : Float) : Bool :=
  signBit ≤ double.toBits.toNat

/-- Whether a double is no number at all, whose bits lie above infinity. -/
def isNaN (double : Float) : Bool :=
  infinityBits < magnitudeBits double

def isFinite (double : Float) : Bool :=
  magnitudeBits double < infinityBits

def ofMagnitude (negative : Bool) (bits : Nat) : Float :=
  Float.ofBits (UInt64.ofNat (if negative then signBit + bits else bits))

/-- The number of times that the quantum of a double has doubled. -/
def binade (bits : Nat) : Nat :=
  bits / binadeSize - 1

/-- A finite magnitude, counted in the smallest positive double. -/
def quanta (bits : Nat) : Nat :=
  (bits - binade bits * binadeSize) <<< binade bits

theorem binade_mul_le (bits : Nat) : binade bits * binadeSize ≤ bits := by
  unfold binade binadeSize
  omega

theorem count_lt (bits : Nat) : bits - binade bits * binadeSize < 2 * binadeSize := by
  unfold binade binadeSize
  omega

theorem le_count {bits : Nat} (doubled : 0 < binade bits) :
    binadeSize ≤ bits - binade bits * binadeSize := by
  unfold binade binadeSize at *
  omega

/-- The binade of a magnitude can be read off its whole count. -/
theorem log2_quanta (bits : Nat) : (quanta bits).log2 - 52 = binade bits := by
  have upper := count_lt bits
  rcases Nat.eq_zero_or_pos (binade bits) with undoubled | doubled
  · unfold quanta
    rw [undoubled] at upper ⊢
    simp only [Nat.zero_mul, Nat.sub_zero, Nat.shiftLeft_zero] at upper ⊢
    by_cases isZero : bits = 0
    · simp [isZero]
    · have : bits.log2 < 53 := (Nat.log2_lt isZero).2 upper
      omega
  · have lower := le_count doubled
    have positive : quanta bits ≠ 0 := by
      have : 0 < binadeSize := by decide
      rw [quanta, Nat.shiftLeft_eq]
      exact Nat.mul_ne_zero (by omega) (Nat.ne_of_gt (Nat.two_pow_pos _))
    have high : (quanta bits).log2 < 53 + binade bits := by
      rw [Nat.log2_lt positive, quanta, Nat.shiftLeft_eq, Nat.pow_add]
      exact Nat.mul_lt_mul_of_pos_right upper (Nat.two_pow_pos _)
    have low : 52 + binade bits ≤ (quanta bits).log2 := by
      rw [Nat.le_log2 positive, quanta, Nat.shiftLeft_eq, Nat.pow_add]
      exact Nat.mul_le_mul_right _ lower
    omega

end Double

end MiniLisp
