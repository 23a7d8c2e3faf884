import MiniLisp.Proofs.RoundedBits

/-!
# The nearest double is nearest

Every double is followed by one that is larger by the quantum of its binade, so doubles are
ordered as their bits are, and a whole number of quanta lies at or above one double and below the
next.  The nearer of the two is nearer than every other double, and where both are equally near
the one with even bits is taken.  Infinity takes part as the double that would follow the largest.

The double nearest to a whole number is given by rounding the number to fifty-three bits, and the
next number of so many bits gives the next double.
-/

namespace MiniLisp

namespace Double

/-- How often one has to be doubled to pass the largest double. -/
@[irreducible] def doublings : Nat := 1024

/-- From one double to the next it is a quantum of its binade. -/
theorem quanta_succ (bits : Nat) : quanta (bits + 1) = quanta bits + 2 ^ binade bits := by
  have fits := binade_mul_le bits
  simp only [quanta, Nat.shiftLeft_eq]
  by_cases same : binade (bits + 1) = binade bits
  · rw [same, Nat.sub_add_comm fits, Nat.add_one_mul]
  · -- The last double of a binade has all but one of twice the count that the next begins with.
    have next : binade (bits + 1) = binade bits + 1 := by
      unfold binade binadeSize at *
      omega
    have last : bits - binade bits * binadeSize + 1 = 2 * binadeSize := by
      unfold binade binadeSize at *
      omega
    have first : bits + 1 - binade (bits + 1) * binadeSize = binadeSize := by
      unfold binade binadeSize at *
      omega
    rw [first, next, ← Nat.add_one_mul, last, Nat.pow_succ, Nat.mul_comm 2, Nat.mul_assoc,
      Nat.mul_comm 2]

theorem quanta_succ_eq (bits : Nat) :
    quanta (bits + 1) = quanta bits + lastPlace (quanta bits) := by
  rw [quanta_succ, lastPlace, log2_quanta]

theorem quanta_strictMono : StrictMono quanta := by
  refine strictMono_nat_of_lt_succ fun bits => ?_
  rw [quanta_succ]
  exact Nat.lt_add_of_pos_right (Nat.two_pow_pos _)

theorem quanta_succ_le {bits other : Nat} (larger : bits < other) :
    quanta (bits + 1) ≤ quanta other :=
  quanta_strictMono.monotone larger

theorem quanta_infinityBits : quanta infinityBits = 2 ^ doublings * quantaInOne := by
  decide +kernel

/-- A count of a binade's quanta, up to the first double of the next binade. -/
theorem quanta_binade {number count : Nat} (high : count ≤ 2 ^ 53)
    (low : number = 0 ∨ 2 ^ 52 ≤ count) :
    quanta (number * binadeSize + count) = count * 2 ^ number := by
  have below : ∀ count, count < 2 ^ 53 → (number = 0 ∨ 2 ^ 52 ≤ count) →
      quanta (number * binadeSize + count) = count * 2 ^ number := by
    intro count high low
    have known : binade (number * binadeSize + count) = number := by
      unfold binade binadeSize
      omega
    rw [quanta, known, Nat.add_sub_cancel_left, Nat.shiftLeft_eq]
  cases count with
  | zero =>
      obtain rfl := low.resolve_right (by decide)
      rfl
  | succ last =>
      rcases Nat.lt_or_eq_of_le high with inside | full
      · exact below (last + 1) inside low
      · have known : binade (number * binadeSize + last) = number := by
          unfold binade binadeSize
          omega
        rw [← Nat.add_assoc, quanta_succ, below last (by omega) (by omega), known, Nat.succ_mul]

/-- The largest double that is not above a count of quanta. -/
def floor (count : Nat) : Nat :=
  (count.log2 - 52) * binadeSize + count / lastPlace count

theorem binade_or_le (count : Nat) :
    count.log2 - 52 = 0 ∨ 2 ^ 52 ≤ count / lastPlace count := by
  rcases Nat.lt_or_ge count (2 ^ 52) with small | large
  · left
    have unit := lastPlace_of_lt (Nat.lt_trans small (by decide))
    exact Nat.pow_right_injective (Nat.le_refl 2) unit
  · exact .inr (le_div_lastPlace large)

theorem quanta_floor (count : Nat) :
    quanta (floor count) = count / lastPlace count * lastPlace count :=
  quanta_binade (Nat.le_of_lt (div_lastPlace_lt count)) (binade_or_le count)

theorem quanta_floor_succ (count : Nat) :
    quanta (floor count + 1) = (count / lastPlace count + 1) * lastPlace count := by
  rw [floor, Nat.add_assoc]
  exact quanta_binade (Nat.succ_le_of_lt (div_lastPlace_lt count))
    ((binade_or_le count).imp_right Nat.le_succ_of_le)

theorem nearest_one (count : Nat) :
    nearest count 1 =
      min ((count.log2 - 52) * binadeSize + divideToEven count (lastPlace count)) infinityBits := by
  rw [nearest, Nat.div_one, Nat.one_shiftLeft]
  rfl

/-- Finding the nearest double is rounding to fifty-three bits, up to infinity. -/
theorem quanta_nearest (count : Nat) :
    quanta (nearest count 1) = min (roundBits count) (quanta infinityBits) := by
  rw [nearest_one, quanta_strictMono.monotone.map_min, roundBits]
  congr 1
  rcases divideToEven_cases count (lastPlace count) with ⟨down, -⟩ | ⟨up, -⟩
  · rw [down]
    exact quanta_floor count
  · rw [up, ← Nat.add_assoc]
    exact quanta_floor_succ count

/-- No double is nearer to a count of quanta, and if another is as near, the bits are even.
Infinity counts as the double after the largest. -/
structure IsNearest (bits count : Nat) : Prop where
  known : bits ≤ infinityBits
  nearest : ∀ other ≤ infinityBits,
    Nat.dist count (quanta bits) ≤ Nat.dist count (quanta other)
  even : ∀ other ≤ infinityBits, other ≠ bits →
    Nat.dist count (quanta bits) = Nat.dist count (quanta other) → bits % 2 = 0

theorem quanta_floor_add_mod (count : Nat) :
    quanta (floor count) + count % lastPlace count = count := by
  rw [quanta_floor, Nat.div_add_mod']

theorem quanta_succ_floor (count : Nat) :
    quanta (floor count + 1) = quanta (floor count) + lastPlace count := by
  rw [quanta_floor_succ, quanta_floor, Nat.succ_mul]

/-- A double is nearest to what lies between the middles of the gaps to its neighbours, and to such
a middle if its bits are even. -/
theorem isNearest_of_middles {bits count : Nat} (known : bits ≤ infinityBits)
    (above : 2 * count ≤ quanta bits + quanta (bits + 1))
    (below : ∀ previous, previous + 1 = bits → quanta previous + quanta bits ≤ 2 * count)
    (even : (2 * count = quanta bits + quanta (bits + 1) ∨
      ∃ previous, previous + 1 = bits ∧ quanta previous + quanta bits = 2 * count) →
        bits % 2 = 0) :
    IsNearest bits count := by
  -- Below, it is the gap before the double that has to be compared.
  have smallerCase {other : Nat} (smaller : other < bits) : ∃ previous, previous + 1 = bits ∧
      quanta other ≤ quanta previous ∧ quanta other < quanta bits ∧
      quanta previous + quanta bits ≤ 2 * count := by
    obtain ⟨previous, rfl⟩ : ∃ previous, bits = previous + 1 := ⟨bits - 1, by omega⟩
    exact ⟨previous, rfl, quanta_strictMono.monotone (Nat.le_of_lt_succ smaller),
      quanta_strictMono smaller, below previous rfl⟩
  refine ⟨known, fun other _ => ?_, fun other _ differs same => even ?_⟩
  · simp only [Nat.dist]
    rcases Nat.lt_trichotomy other bits with smaller | rfl | larger
    · obtain ⟨previous, -, ordered⟩ := smallerCase smaller
      omega
    · exact Nat.le_refl _
    · have ordered := quanta_succ_le larger
      have differ := quanta_strictMono larger
      omega
  · simp only [Nat.dist] at same
    rcases Nat.lt_or_gt_of_ne differs with smaller | larger
    · obtain ⟨previous, isPrevious, ordered⟩ := smallerCase smaller
      exact .inr ⟨previous, isPrevious, by omega⟩
    · have ordered := quanta_succ_le larger
      have differ := quanta_strictMono larger
      exact .inl (by omega)

theorem isNearest_infinityBits {count : Nat} (beyond : quanta infinityBits ≤ count) :
    IsNearest infinityBits count where
  known := Nat.le_refl _
  nearest := by
    intro other known
    have ordered := quanta_strictMono.monotone known
    simp only [Nat.dist]
    omega
  even := fun _ _ _ _ => rfl

/-- The nearest double is the one at or below a count or the one after it, and between them the
remainder decides. -/
theorem nearest_cases (count : Nat) :
    (nearest count 1 = min (floor count) infinityBits ∧
        2 * (count % lastPlace count) ≤ lastPlace count ∧
        (2 * (count % lastPlace count) = lastPlace count → floor count % 2 = 0)) ∨
      (nearest count 1 = min (floor count + 1) infinityBits ∧
        lastPlace count ≤ 2 * (count % lastPlace count) ∧
        (2 * (count % lastPlace count) = lastPlace count → (floor count + 1) % 2 = 0)) := by
  have evenSize : ∀ number : Nat, number * binadeSize % 2 = 0 := by
    unfold binadeSize
    omega
  have even := @divideToEven_mod_two count (lastPlace count)
  rw [nearest_one, floor, Nat.add_assoc, Nat.add_mod, Nat.add_mod _ (_ + 1), evenSize, Nat.zero_add,
    Nat.zero_add, Nat.mod_mod, Nat.mod_mod]
  rcases divideToEven_cases count (lastPlace count) with ⟨rounded, half⟩ | ⟨rounded, half⟩
  · rw [rounded] at even ⊢
    exact .inl ⟨rfl, half, even⟩
  · rw [rounded] at even ⊢
    exact .inr ⟨rfl, half, even⟩

theorem isNearest_floor {count : Nat} (finite : floor count < infinityBits)
    (down : 2 * (count % lastPlace count) ≤ lastPlace count)
    (even : 2 * (count % lastPlace count) = lastPlace count → floor count % 2 = 0) :
    IsNearest (floor count) count := by
  have remainder := quanta_floor_add_mod count
  have next := quanta_succ_floor count
  have before {previous : Nat} (isPrevious : previous + 1 = floor count) :
      quanta previous < quanta (floor count) :=
    quanta_strictMono (by omega)
  apply isNearest_of_middles (Nat.le_of_lt finite)
  · omega
  · intro previous isPrevious
    have smaller := before isPrevious
    omega
  · rintro (middle | ⟨previous, isPrevious, middle⟩)
    · exact even (by omega)
    · have smaller := before isPrevious
      omega

theorem isNearest_floor_succ {count : Nat} (finite : floor count + 1 ≤ infinityBits)
    (up : lastPlace count ≤ 2 * (count % lastPlace count))
    (even : 2 * (count % lastPlace count) = lastPlace count → (floor count + 1) % 2 = 0) :
    IsNearest (floor count + 1) count := by
  have remainder := quanta_floor_add_mod count
  have next := quanta_succ_floor count
  have inside := Nat.mod_lt count (lastPlace_pos count)
  have after := quanta_strictMono (Nat.lt_add_one (floor count + 1))
  apply isNearest_of_middles finite
  · omega
  · intro previous isPrevious
    obtain rfl : previous = floor count := by omega
    omega
  · rintro (middle | ⟨previous, isPrevious, middle⟩)
    · omega
    · obtain rfl : previous = floor count := by omega
      exact even (by omega)

/-- The double that is found is nearest to the count it is found for. -/
theorem isNearest_nearest (count : Nat) : IsNearest (nearest count 1) count := by
  rcases Nat.lt_or_ge (floor count) infinityBits with finite | infinite
  · rcases nearest_cases count with ⟨found, half, even⟩ | ⟨found, half, even⟩
    · rw [found, Nat.min_eq_left (Nat.le_of_lt finite)]
      exact isNearest_floor finite half even
    · rw [found, Nat.min_eq_left (Nat.succ_le_of_lt finite)]
      exact isNearest_floor_succ finite half even
  · have beyond : quanta infinityBits ≤ count := by
      have ordered := quanta_strictMono.monotone infinite
      have below := quanta_floor_add_mod count
      omega
    have found : nearest count 1 = infinityBits := by
      rcases nearest_cases count with ⟨found, -⟩ | ⟨found, -⟩
      · rw [found, Nat.min_eq_right infinite]
      · rw [found, Nat.min_eq_right (Nat.le_succ_of_le infinite)]
    rw [found]
    exact isNearest_infinityBits beyond

/-- There is only one nearest double: of two that are as near, both with even bits, another would
lie between them. -/
theorem IsNearest.unique {first second count : Nat} (isFirst : IsNearest first count)
    (isSecond : IsNearest second count) : first = second := by
  by_contra differs
  wlog smaller : first < second
  · exact this isSecond isFirst (Ne.symm differs) (by omega)
  have same : Nat.dist count (quanta first) = Nat.dist count (quanta second) :=
    Nat.le_antisymm (isFirst.nearest second isSecond.known) (isSecond.nearest first isFirst.known)
  have evenFirst := isFirst.even second isSecond.known (Ne.symm differs) same
  have evenSecond := isSecond.even first isFirst.known differs same.symm
  have between : first + 1 < second := by omega
  have known : first + 1 ≤ infinityBits := Nat.le_trans smaller isSecond.known
  have notNearer := isFirst.nearest (first + 1) known
  have above := quanta_strictMono (Nat.lt_add_one first)
  have below := quanta_strictMono between
  simp only [Nat.dist] at same notNearer
  omega

/-- The whole number that infinity counts as. -/
def wholeLimit : Nat := 2 ^ doublings

/-- The bits of the double nearest to a whole number. -/
def nearestWhole (number : Nat) : Nat :=
  nearest (number * quantaInOne) 1

theorem quanta_nearestWhole (number : Nat) :
    quanta (nearestWhole number) = min (roundBits number) wholeLimit * quantaInOne := by
  rw [nearestWhole, quanta_nearest, quanta_infinityBits, quantaInOne, Nat.one_shiftLeft,
    roundBits_mul_two_pow, Nat.mul_min_mul_right, wholeLimit]

/-- The nearest double depends on no more than fifty-three bits, and on nothing beyond the largest
double. -/
theorem nearestWhole_congr {first second : Nat}
    (same : min (roundBits first) wholeLimit = min (roundBits second) wholeLimit) :
    nearestWhole first = nearestWhole second := by
  apply quanta_strictMono.injective
  rw [quanta_nearestWhole, quanta_nearestWhole, same]

theorem wholeLimit_le_truncateBits {number : Nat} (large : wholeLimit ≤ number) :
    wholeLimit ≤ truncateBits number := by
  have many : 52 ≤ doublings := by
    unfold doublings
    decide
  have long : 2 ^ 52 ≤ wholeLimit := Nat.pow_le_pow_right (by decide) many
  exact two_pow_le_truncateBits (Nat.le_trans long large) large

theorem nearestWhole_eq_of_le {first second : Nat} (firstLarge : wholeLimit ≤ first)
    (secondLarge : wholeLimit ≤ second) : nearestWhole first = nearestWhole second := by
  have infinite {number : Nat} (large : wholeLimit ≤ number) :
      min (roundBits number) wholeLimit = wholeLimit :=
    Nat.min_eq_right
      (Nat.le_trans (wholeLimit_le_truncateBits large) (truncateBits_le_roundBits number))
  apply nearestWhole_congr
  rw [infinite firstLarge, infinite secondLarge]

/-- The next rounded number gives the next double, up to infinity. -/
theorem nearestWhole_succ {first second : Nat} (large : 2 ^ 52 ≤ roundBits first)
    (finite : roundBits first < wholeLimit)
    (next : roundBits second = roundBits first + lastPlace (roundBits first)) :
    nearestWhole first + 1 = nearestWhole second := by
  have limit : quanta infinityBits = wholeLimit * quantaInOne := quanta_infinityBits
  have positive : 0 < quantaInOne := by
    rw [quantaInOne, Nat.one_shiftLeft]
    exact Nat.two_pow_pos _
  have place : lastPlace (roundBits first * quantaInOne) =
      lastPlace (roundBits first) * quantaInOne := by
    rw [quantaInOne, Nat.one_shiftLeft, lastPlace_mul_two_pow large]
  have below : quanta (nearestWhole first) = roundBits first * quantaInOne := by
    rw [quanta_nearestWhole, Nat.min_eq_left (Nat.le_of_lt finite)]
  have above : quanta (nearestWhole first + 1) = roundBits second * quantaInOne := by
    rw [quanta_succ_eq, below, place, next, Nat.add_mul]
  have inside : nearestWhole first < infinityBits := by
    rw [← quanta_strictMono.lt_iff_lt, below, limit]
    exact Nat.mul_lt_mul_of_pos_right finite positive
  have reached : roundBits second * quantaInOne ≤ wholeLimit * quantaInOne := by
    rw [← above, ← limit]
    exact quanta_strictMono.monotone inside
  apply quanta_strictMono.injective
  rw [above, quanta_nearestWhole, ← Nat.mul_min_mul_right, Nat.min_eq_left reached]

end Double

end MiniLisp
