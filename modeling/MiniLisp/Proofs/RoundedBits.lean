import Mathlib
import MiniLisp.Number.Rounding

/-!
# Rounding to fifty-three bits

A number of more than fifty-three bits is rounded to a multiple of its last place, which is the
value of the last of its fifty-three most significant bits.  Doubling a number doubles its last
place, so that rounding does not depend on where the binary point is.

Where further bits are put after those of a number, the last place only moves up.  What is rounded
off begins with what was rounded off before, and the new bits decide only a tie: if they are not
zero, what had gone down to the even neighbour now goes up.
-/

namespace MiniLisp

/-- The value of the last of the fifty-three most significant bits of a number. -/
def lastPlace (number : Nat) : Nat :=
  2 ^ (number.log2 - 52)

def truncateBits (number : Nat) : Nat :=
  number / lastPlace number * lastPlace number

def roundBits (number : Nat) : Nat :=
  divideToEven number (lastPlace number) * lastPlace number

/-- A number that is half-way between two neighbours of fifty-three bits, of which the lower one
is even. -/
def TiesDown (number : Nat) : Prop :=
  2 * (number % lastPlace number) = lastPlace number ∧ number / lastPlace number % 2 = 0

instance (number : Nat) : Decidable (TiesDown number) :=
  inferInstanceAs (Decidable (_ ∧ _))

theorem lastPlace_pos (number : Nat) : 0 < lastPlace number :=
  Nat.two_pow_pos _

theorem lastPlace_of_lt {number : Nat} (small : number < 2 ^ 53) : lastPlace number = 1 := by
  rcases Nat.eq_zero_or_pos number with rfl | positive
  · rfl
  · have short := (Nat.log2_lt (Nat.ne_of_gt positive)).2 small
    rw [lastPlace, Nat.sub_eq_zero_of_le (Nat.le_of_lt_succ short), Nat.pow_zero]

theorem two_dvd_lastPlace {number : Nat} (large : 2 ^ 53 ≤ number) : 2 ∣ lastPlace number := by
  have long := (Nat.le_log2 (by omega)).2 large
  exact Nat.dvd_of_pow_dvd (Nat.sub_pos_of_lt long) (Nat.dvd_refl _)

theorem div_lastPlace_lt (number : Nat) : number / lastPlace number < 2 ^ 53 := by
  rw [Nat.div_lt_iff_lt_mul (lastPlace_pos number), lastPlace, ← Nat.pow_add]
  exact Nat.lt_of_lt_of_le Nat.lt_log2_self (Nat.pow_le_pow_right (by decide) (by omega))

theorem le_div_lastPlace {number : Nat} (large : 2 ^ 52 ≤ number) :
    2 ^ 52 ≤ number / lastPlace number := by
  have positive : number ≠ 0 := by omega
  have long := (Nat.le_log2 positive).2 large
  rw [Nat.le_div_iff_mul_le (lastPlace_pos number), lastPlace, ← Nat.pow_add,
    Nat.add_sub_cancel' long]
  exact Nat.log2_self_le positive

theorem truncateBits_add_mod (number : Nat) :
    truncateBits number + number % lastPlace number = number :=
  Nat.div_add_mod' _ _

theorem truncateBits_le (number : Nat) : truncateBits number ≤ number :=
  Nat.div_mul_le_self _ _

/-- No power of two in a number of fifty-three bits is lost. -/
theorem two_pow_le_truncateBits {number power : Nat} (large : 2 ^ 52 ≤ number)
    (below : 2 ^ power ≤ number) : 2 ^ power ≤ truncateBits number := by
  have positive : number ≠ 0 := by omega
  have long := (Nat.le_log2 positive).2 large
  calc
    2 ^ power ≤ 2 ^ number.log2 :=
      Nat.pow_le_pow_right (by decide) ((Nat.le_log2 positive).2 below)
    _ = 2 ^ 52 * lastPlace number := by rw [lastPlace, ← Nat.pow_add, Nat.add_sub_cancel' long]
    _ ≤ truncateBits number := Nat.mul_le_mul_right _ (le_div_lastPlace large)

/-- A half goes to the even quotient. -/
theorem divideToEven_mod_two {numerator denominator : Nat}
    (half : 2 * (numerator % denominator) = denominator) :
    divideToEven numerator denominator % 2 = 0 := by
  simp only [divideToEven]
  rw [if_neg (by omega), if_neg (by omega)]
  omega

theorem truncateBits_le_roundBits (number : Nat) : truncateBits number ≤ roundBits number := by
  apply Nat.mul_le_mul_right
  rcases divideToEven_cases number (lastPlace number) with ⟨rounded, -⟩ | ⟨rounded, -⟩ <;> omega

theorem TiesDown.roundBits {number : Nat} (tiesDown : TiesDown number) :
    roundBits number = truncateBits number := by
  obtain ⟨half, even⟩ := tiesDown
  rw [MiniLisp.roundBits, truncateBits, divideToEven, if_neg (by omega), if_neg (by omega), even,
    Nat.add_zero]

theorem roundBits_of_half_lt {number : Nat}
    (above : lastPlace number < 2 * (number % lastPlace number)) :
    roundBits number = truncateBits number + lastPlace number := by
  rw [roundBits, truncateBits, divideToEven, ← Nat.succ_mul, if_neg (by omega), if_pos above]

theorem TiesDown.le {number : Nat} (tiesDown : TiesDown number) : 2 ^ 53 ≤ number := by
  refine Nat.le_of_not_lt fun small => ?_
  have half := tiesDown.1
  rw [lastPlace_of_lt small] at half
  omega

theorem log2_mul_add {number bits rest : Nat} (positive : 0 < number) (small : rest < 2 ^ bits) :
    (number * 2 ^ bits + rest).log2 = number.log2 + bits := by
  have low := Nat.mul_le_mul_right (2 ^ bits) (Nat.log2_self_le (Nat.ne_of_gt positive))
  have high := Nat.mul_le_mul_right (2 ^ bits) (Nat.succ_le_of_lt (@Nat.lt_log2_self number))
  rw [Nat.succ_mul] at high
  have nonzero : number * 2 ^ bits + rest ≠ 0 := by
    have := Nat.mul_pos positive (Nat.two_pow_pos bits)
    omega
  rw [Nat.log2_eq_iff nonzero, Nat.add_right_comm, Nat.pow_add, Nat.pow_add]
  omega

theorem lastPlace_mul_add {number bits rest : Nat} (large : 2 ^ 52 ≤ number)
    (small : rest < 2 ^ bits) :
    lastPlace (number * 2 ^ bits + rest) = lastPlace number * 2 ^ bits := by
  have positive : 0 < number := by omega
  have long := (Nat.le_log2 (Nat.ne_of_gt positive)).2 large
  rw [lastPlace, lastPlace, log2_mul_add positive small, ← Nat.pow_add, Nat.sub_add_comm long]

theorem lastPlace_mul_two_pow {number : Nat} (large : 2 ^ 52 ≤ number) (bits : Nat) :
    lastPlace (number * 2 ^ bits) = lastPlace number * 2 ^ bits := by
  have scaled := lastPlace_mul_add large (Nat.two_pow_pos bits)
  rwa [Nat.add_zero] at scaled

/-- The quotient stays, and the remainder goes on with the new bits. -/
theorem div_mod_mul_add {number bits rest : Nat} (large : 2 ^ 52 ≤ number)
    (small : rest < 2 ^ bits) :
    (number * 2 ^ bits + rest) / lastPlace (number * 2 ^ bits + rest) =
        number / lastPlace number ∧
      (number * 2 ^ bits + rest) % lastPlace (number * 2 ^ bits + rest) =
        number % lastPlace number * 2 ^ bits + rest := by
  have inside := Nat.mul_le_mul_right (2 ^ bits) (Nat.mod_lt number (lastPlace_pos number))
  have whole := congrArg (· * 2 ^ bits) (Nat.div_add_mod number (lastPlace number))
  rw [Nat.succ_mul] at inside
  rw [Nat.add_mul, Nat.mul_right_comm] at whole
  rw [lastPlace_mul_add large small,
    Nat.div_mod_unique (Nat.mul_pos (lastPlace_pos number) (Nat.two_pow_pos bits))]
  omega

theorem truncateBits_mul_add {number bits rest : Nat} (large : 2 ^ 52 ≤ number)
    (small : rest < 2 ^ bits) :
    truncateBits (number * 2 ^ bits + rest) = truncateBits number * 2 ^ bits := by
  rw [truncateBits, (div_mod_mul_add large small).1, lastPlace_mul_add large small, truncateBits,
    Nat.mul_assoc]

/-- Where an even number is divided by and the remainder goes on with less than one, the quotient
is rounded as before, unless that breaks a tie. -/
theorem divideToEven_refine {number place scale rest : Nat} (even : 2 ∣ place)
    (small : rest < scale) {refined : Nat}
    (quotient : refined / (place * scale) = number / place)
    (remainder : refined % (place * scale) = number % place * scale + rest)
    (noBreak : ¬ ((2 * (number % place) = place ∧ number / place % 2 = 0) ∧ rest ≠ 0)) :
    divideToEven refined (place * scale) = divideToEven number place := by
  simp only [divideToEven, quotient, remainder]
  generalize number / place = whole at noBreak
  generalize number % place = part at noBreak
  rcases Nat.lt_trichotomy (2 * part) place with below | half | above
  · -- Both sides are even, which leaves room for what is less than one.
    have apart : 2 * part + 2 ≤ place := by omega
    have scaled := Nat.mul_le_mul_right scale apart
    rw [Nat.add_mul, Nat.mul_assoc] at scaled
    have stillBelow : 2 * (part * scale + rest) < place * scale := by omega
    rw [if_pos below, if_pos stillBelow]
  · have scaled : 2 * (part * scale) = place * scale := by rw [← Nat.mul_assoc, half]
    have notBelow : ¬ 2 * (part * scale + rest) < place * scale := by omega
    rw [half, if_neg notBelow, if_neg (Nat.lt_irrefl place), if_neg (Nat.lt_irrefl place)]
    split
    · omega
    · rfl
  · have scaled := Nat.mul_le_mul_right scale (Nat.succ_le_of_lt above)
    rw [Nat.succ_mul, Nat.mul_assoc] at scaled
    have stillAbove : place * scale < 2 * (part * scale + rest) := by omega
    rw [if_neg (Nat.lt_asymm above), if_pos above, if_neg (Nat.lt_asymm stillAbove),
      if_pos stillAbove]

/-- New bits that are zero, or that break no tie, change nothing that is kept. -/
theorem roundBits_mul_add {number bits rest : Nat} (large : 2 ^ 53 ≤ number)
    (small : rest < 2 ^ bits) (noBreak : ¬ (TiesDown number ∧ rest ≠ 0)) :
    roundBits (number * 2 ^ bits + rest) = roundBits number * 2 ^ bits := by
  have long : 2 ^ 52 ≤ number := by omega
  obtain ⟨quotient, remainder⟩ := div_mod_mul_add long small
  rw [lastPlace_mul_add long small] at quotient remainder
  rw [roundBits, roundBits, lastPlace_mul_add long small, Nat.mul_assoc,
    divideToEven_refine (two_dvd_lastPlace large) small quotient remainder noBreak]

theorem roundBits_of_dvd {number : Nat} (multiple : lastPlace number ∣ number) :
    roundBits number = number := by
  obtain ⟨quotient, whole⟩ := multiple
  have exact := divideToEven_mul_right quotient (lastPlace_pos number)
  rw [Nat.mul_comm, ← whole] at exact
  rw [roundBits, exact, Nat.mul_comm, ← whole]

/-- Up to fifty-three bits and zeros after them stay as they are. -/
theorem roundBits_mul_two_pow_of_lt {number : Nat} (short : number < 2 ^ 53) (zeros : Nat) :
    roundBits (number * 2 ^ zeros) = number * 2 ^ zeros := by
  rcases Nat.eq_zero_or_pos number with rfl | positive
  · rw [Nat.zero_mul]
    rfl
  · have few := (Nat.log2_lt (Nat.ne_of_gt positive)).2 short
    have length := log2_mul_add positive (Nat.two_pow_pos zeros)
    rw [Nat.add_zero] at length
    apply roundBits_of_dvd
    rw [lastPlace, length]
    exact Nat.dvd_mul_left_of_dvd (Nat.pow_dvd_pow 2 (by omega)) _

theorem roundBits_of_lt {number : Nat} (short : number < 2 ^ 53) : roundBits number = number := by
  rw [roundBits, lastPlace_of_lt short, Nat.mul_one]
  have exact := divideToEven_mul_right number Nat.one_pos
  rwa [Nat.mul_one] at exact

theorem roundBits_two_pow (power : Nat) : roundBits (2 ^ power) = 2 ^ power := by
  have exact := @roundBits_mul_two_pow_of_lt 1 (by decide) power
  rwa [Nat.one_mul] at exact

/-- What is rounded is a quotient of fifty-three bits, or the next power of two. -/
theorem roundBits_roundBits (number : Nat) : roundBits (roundBits number) = roundBits number := by
  have bounded : divideToEven number (lastPlace number) ≤ 2 ^ 53 := by
    have short := div_lastPlace_lt number
    rcases divideToEven_cases number (lastPlace number) with ⟨rounded, -⟩ | ⟨rounded, -⟩ <;> omega
  rcases Nat.lt_or_eq_of_le bounded with short | full
  · exact roundBits_mul_two_pow_of_lt short _
  · have power : roundBits number = 2 ^ (53 + (number.log2 - 52)) := by
      rw [roundBits, full, Nat.pow_add]
      rfl
    rw [power, roundBits_two_pow]

/-- Rounding does not depend on where the binary point is. -/
theorem roundBits_mul_two_pow (number bits : Nat) :
    roundBits (number * 2 ^ bits) = roundBits number * 2 ^ bits := by
  rcases Nat.lt_or_ge number (2 ^ 53) with short | large
  · rw [roundBits_mul_two_pow_of_lt short, roundBits_of_lt short]
  · exact roundBits_mul_add large (Nat.two_pow_pos bits) fun breaks => breaks.2 rfl

theorem not_tiesDown_roundBits (number : Nat) : ¬ TiesDown (roundBits number) := by
  intro tiesDown
  have whole := truncateBits_add_mod (roundBits number)
  have positive := lastPlace_pos (roundBits number)
  have half := tiesDown.1
  rw [← tiesDown.roundBits, roundBits_roundBits] at whole
  omega

/-- Cutting a number off leaves its last place. -/
theorem lastPlace_truncateBits {number : Nat} (large : 2 ^ 52 ≤ number) :
    lastPlace (truncateBits number) = lastPlace number := by
  have positive : number ≠ 0 := by omega
  have lower := two_pow_le_truncateBits large (Nat.log2_self_le positive)
  have upper := truncateBits_add_mod number
  have bounded := @Nat.lt_log2_self number
  have nonzero : truncateBits number ≠ 0 :=
    Nat.ne_of_gt (Nat.lt_of_lt_of_le (Nat.two_pow_pos _) lower)
  have length : (truncateBits number).log2 = number.log2 := by
    rw [Nat.log2_eq_iff nonzero]
    omega
  rw [lastPlace, length, lastPlace]

/-- What is kept of a number that has been cut off where it is to be rounded up. -/
structure CutShort (kept number : Nat) : Prop where
  cut : kept = truncateBits number
  large : 2 ^ 53 ≤ number
  above : lastPlace number < 2 * (number % lastPlace number)

theorem le_mul_two_pow_add {bound number : Nat} (large : bound ≤ number) (bits rest : Nat) :
    bound ≤ number * 2 ^ bits + rest :=
  Nat.le_add_right_of_le
    (Nat.le_trans large (Nat.le_mul_of_pos_right number (Nat.two_pow_pos bits)))

/-- The rounding of what was cut short comes one place later. -/
theorem CutShort.roundBits {kept number : Nat} (cutShort : CutShort kept number) :
    roundBits number = kept + lastPlace kept := by
  have long : 2 ^ 52 ≤ number := Nat.le_trans (by decide) cutShort.large
  rw [cutShort.cut, lastPlace_truncateBits long, roundBits_of_half_lt cutShort.above]

/-- A number stays cut short when it gets new bits. -/
theorem CutShort.mul_add {kept number bits rest : Nat} (cutShort : CutShort kept number)
    (small : rest < 2 ^ bits) : CutShort (kept * 2 ^ bits) (number * 2 ^ bits + rest) := by
  have long : 2 ^ 52 ≤ number := Nat.le_trans (by decide) cutShort.large
  refine ⟨?_, le_mul_two_pow_add cutShort.large bits rest, ?_⟩
  · rw [truncateBits_mul_add long small, cutShort.cut]
  · have scaled := Nat.mul_lt_mul_of_pos_right cutShort.above (Nat.two_pow_pos bits)
    rw [(div_mod_mul_add long small).2, lastPlace_mul_add long small, Nat.mul_add,
      ← Nat.mul_assoc]
    omega

/-- New bits that break a tie cut a number short. -/
theorem TiesDown.cutShort {number bits rest : Nat} (tiesDown : TiesDown number)
    (small : rest < 2 ^ bits) (nonzero : rest ≠ 0) :
    CutShort (MiniLisp.roundBits number * 2 ^ bits) (number * 2 ^ bits + rest) := by
  have long : 2 ^ 52 ≤ number := Nat.le_trans (by decide) tiesDown.le
  refine ⟨?_, le_mul_two_pow_add tiesDown.le bits rest, ?_⟩
  · rw [truncateBits_mul_add long small, tiesDown.roundBits]
  · rw [(div_mod_mul_add long small).2, lastPlace_mul_add long small, Nat.mul_add,
      ← Nat.mul_assoc, tiesDown.1]
    omega

end MiniLisp
