import MiniLisp.Proofs.NearestDoubles
import MiniLisp.Proofs.NumberGrammar

/-!
# Gathered digits

The digits after an announced radix are gathered in a double, which is rounded at every digit.
Its radix is a power of two, so a product with it is exact, and what is rounded is a whole number
that is gathered in the same way with fifty-three bits kept.

Once fifty-three bits are full, the digits that follow change nothing that is kept.  So what is
gathered is the double nearest to the number that all digits denote, but for one case: where the
digits up to some place denote a number half-way between two doubles, and have been rounded down to
the even one, and a digit after that is not zero.  Then it is the double before the nearest.
-/

namespace MiniLisp

theorem Decimal.bits_whole (value : Nat) :
    bits { coefficient := value, place := 0 } = Double.nearestWhole value := by
  have noTens : Nat.pow 10 0 = 1 := rfl
  rw [bits, Int.neg_zero, Int.toNat_zero, noTens, Nat.mul_one, Double.nearestWhole]

namespace Literal

open Double

/-- The number that digits denote in a base, of which the first digit is the most significant. -/
def denoted (base : Nat) (digits : List Nat) : Nat :=
  Nat.ofDigits base digits.reverse

@[simp] theorem denoted_concat (base : Nat) (digits : List Nat) (digit : Nat) :
    denoted base (digits ++ [digit]) = denoted base digits * base + digit := by
  rw [denoted, denoted, List.reverse_append, List.reverse_singleton, List.singleton_append,
    Nat.ofDigits_cons, Nat.mul_comm, Nat.add_comm]

/-- Gather digits in a whole number of which fifty-three bits are kept. -/
def gatherWhole (base : Nat) (digits : List Nat) : Nat :=
  digits.foldl (fun number digit => roundBits number * base + digit) 0

@[simp] theorem gatherWhole_concat (base : Nat) (digits : List Nat) (digit : Nat) :
    gatherWhole base (digits ++ [digit]) =
      roundBits (gatherWhole base digits) * base + digit := by
  rw [gatherWhole, List.foldl_append, List.foldl_cons, List.foldl_nil, gatherWhole]

/-- Whether the digits up to some place denote a tie that is rounded down, and the next is not
zero. -/
def BreaksTie (base : Nat) (digits : List Nat) : Prop :=
  ∃ first digit later, digits = first ++ digit :: later ∧ TiesDown (denoted base first) ∧
    digit ≠ 0

/-- One more digit in base a power of two is rounded once. -/
theorem gatherDigit_nearestWhole (bits number digit : Nat) :
    gatherDigit (2 ^ bits) (nearestWhole number) digit =
      nearestWhole (roundBits number * 2 ^ bits + digit) := by
  have product : nearest (quanta (nearestWhole number) * 2 ^ bits) 1 =
      nearestWhole (min (roundBits number) wholeLimit * 2 ^ bits) := by
    rw [quanta_nearestWhole, Nat.mul_right_comm, nearestWhole]
  have bounded : roundBits (min (roundBits number) wholeLimit) =
      min (roundBits number) wholeLimit := by
    rcases Nat.le_total (roundBits number) wholeLimit with finite | infinite
    · rw [Nat.min_eq_left finite, roundBits_roundBits]
    · rw [Nat.min_eq_right infinite, wholeLimit, roundBits_two_pow]
  have sum : gatherDigit (2 ^ bits) (nearestWhole number) digit =
      nearestWhole (min (min (roundBits number) wholeLimit * 2 ^ bits) wholeLimit + digit) := by
    rw [gatherDigit, product, quanta_nearestWhole, roundBits_mul_two_pow, bounded, ← Nat.add_mul,
      nearestWhole]
  have grows := Nat.le_mul_of_pos_right (roundBits number) (Nat.two_pow_pos bits)
  have limitGrows := Nat.le_mul_of_pos_right wholeLimit (Nat.two_pow_pos bits)
  rw [sum]
  rcases Nat.le_total (roundBits number * 2 ^ bits) wholeLimit with finite | infinite
  · rw [Nat.min_eq_left (Nat.le_trans grows finite), Nat.min_eq_left finite]
  · -- The product is infinite, and so is its sum with a digit.
    have full : min (min (roundBits number) wholeLimit * 2 ^ bits) wholeLimit = wholeLimit := by
      rw [← Nat.mul_min_mul_right]
      omega
    rw [full]
    exact nearestWhole_eq_of_le (Nat.le_add_right _ _) (Nat.le_add_right_of_le infinite)

theorem gather_concat (base : Nat) (digits : List Nat) (digit : Nat) :
    gather base (digits ++ [digit]) = gatherDigit base (gather base digits) digit := by
  rw [gather, List.foldl_append, List.foldl_cons, List.foldl_nil, gather]

theorem gather_two_pow (bits : Nat) (digits : List Nat) :
    gather (2 ^ bits) digits = nearestWhole (gatherWhole (2 ^ bits) digits) := by
  induction digits using List.reverseRecOn with
  | nil =>
      rw [gatherWhole, List.foldl_nil, nearestWhole, Nat.zero_mul]
      rfl
  | append_singleton digits digit ih =>
      rw [gather_concat, gatherWhole_concat, ih, gatherDigit_nearestWhole]

theorem breaksTie_concat {base : Nat} {digits : List Nat} {digit : Nat} :
    BreaksTie base (digits ++ [digit]) ↔
      BreaksTie base digits ∨ (TiesDown (denoted base digits) ∧ digit ≠ 0) := by
  constructor
  · rintro ⟨first, nonzero, later, shape, tiesDown, isNonzero⟩
    cases later using List.reverseRecOn with
    | nil =>
        obtain ⟨rfl, same⟩ := List.append_inj' shape rfl
        rw [List.singleton_inj] at same
        rw [same]
        exact .inr ⟨tiesDown, isNonzero⟩
    | append_singleton later last =>
        rw [← List.cons_append, ← List.append_assoc] at shape
        obtain ⟨rfl, -⟩ := List.append_inj' shape rfl
        exact .inl ⟨first, nonzero, later, rfl, tiesDown, isNonzero⟩
  · rintro (⟨first, nonzero, later, rfl, tiesDown, isNonzero⟩ | ⟨tiesDown, isNonzero⟩)
    · exact ⟨first, nonzero, later ++ [digit], by simp, tiesDown, isNonzero⟩
    · exact ⟨digits, digit, [], rfl, tiesDown, isNonzero⟩

/-- What is kept of gathered digits, against the number they denote. -/
structure Keeps (base : Nat) (digits : List Nat) : Prop where
  nearest : ¬ BreaksTie base digits →
    roundBits (gatherWhole base digits) = roundBits (denoted base digits)
  cutShort : BreaksTie base digits →
    CutShort (roundBits (gatherWhole base digits)) (denoted base digits)

theorem Keeps.truncateBits_le {base : Nat} {digits : List Nat} (keeps : Keeps base digits) :
    truncateBits (denoted base digits) ≤ roundBits (gatherWhole base digits) := by
  by_cases breaks : BreaksTie base digits
  · rw [(keeps.cutShort breaks).cut]
  · rw [keeps.nearest breaks]
    exact truncateBits_le_roundBits _

/-- As long as fifty-three bits are not full, nothing is rounded. -/
theorem Keeps.concat_of_lt {base : Nat} {digits : List Nat} (keeps : Keeps base digits)
    (short : denoted base digits < 2 ^ 53) (digit : Nat) : Keeps base (digits ++ [digit]) := by
  have unbroken : ¬ BreaksTie base digits := fun breaks =>
    Nat.not_le_of_lt short (keeps.cutShort breaks).large
  have stillUnbroken : ¬ BreaksTie base (digits ++ [digit]) := by
    rw [breaksTie_concat]
    rintro (breaks | ⟨tiesDown, -⟩)
    · exact unbroken breaks
    · exact Nat.not_le_of_lt short tiesDown.le
  refine ⟨fun _ => ?_, fun breaks => absurd breaks stillUnbroken⟩
  rw [gatherWhole_concat, denoted_concat, keeps.nearest unbroken, roundBits_of_lt short]

/-- Once they are full, a digit changes nothing that is kept. -/
theorem Keeps.concat_of_le {bits : Nat} {digits : List Nat} (keeps : Keeps (2 ^ bits) digits)
    (large : 2 ^ 53 ≤ denoted (2 ^ bits) digits) {digit : Nat} (isDigit : digit < 2 ^ bits) :
    Keeps (2 ^ bits) (digits ++ [digit]) := by
  have long : 2 ^ 52 ≤ denoted (2 ^ bits) digits := Nat.le_trans (by decide) large
  have keptLarge : 2 ^ 53 ≤ roundBits (gatherWhole (2 ^ bits) digits) :=
    Nat.le_trans (two_pow_le_truncateBits long large) keeps.truncateBits_le
  have kept : roundBits (gatherWhole (2 ^ bits) (digits ++ [digit])) =
      roundBits (gatherWhole (2 ^ bits) digits) * 2 ^ bits := by
    rw [gatherWhole_concat, roundBits_mul_add keptLarge isDigit, roundBits_roundBits]
    -- A number that has been rounded is no tie itself.
    exact fun breaks => not_tiesDown_roundBits _ breaks.1
  refine ⟨fun unbroken => ?_, fun breaks => ?_⟩
  · rw [breaksTie_concat, not_or] at unbroken
    rw [kept, denoted_concat, roundBits_mul_add large isDigit unbroken.2,
      keeps.nearest unbroken.1]
  · rw [kept, denoted_concat]
    by_cases before : BreaksTie (2 ^ bits) digits
    · exact (keeps.cutShort before).mul_add isDigit
    · obtain ⟨tiesDown, nonzero⟩ := (breaksTie_concat.1 breaks).resolve_left before
      rw [keeps.nearest before]
      exact tiesDown.cutShort isDigit nonzero

theorem keeps_of_digits {bits : Nat} {digits : List Nat}
    (areDigits : ∀ digit ∈ digits, digit < 2 ^ bits) : Keeps (2 ^ bits) digits := by
  induction digits using List.reverseRecOn with
  | nil =>
      refine ⟨fun _ => rfl, ?_⟩
      rintro ⟨first, digit, later, shape, -⟩
      cases first <;> cases shape
  | append_singleton digits digit ih =>
      rw [List.forall_mem_append, List.forall_mem_singleton] at areDigits
      have keeps := ih areDigits.1
      rcases Nat.lt_or_ge (denoted (2 ^ bits) digits) (2 ^ 53) with short | large
      · exact keeps.concat_of_lt short digit
      · exact keeps.concat_of_le large areDigits.2

/-- Unless a tie is broken, or all is too large anyway, digits are gathered to the nearest
double. -/
theorem gather_eq_nearestWhole {bits : Nat} {digits : List Nat}
    (areDigits : ∀ digit ∈ digits, digit < 2 ^ bits)
    (noBreak : ¬ (BreaksTie (2 ^ bits) digits ∧ denoted (2 ^ bits) digits < wholeLimit)) :
    gather (2 ^ bits) digits = nearestWhole (denoted (2 ^ bits) digits) := by
  have keeps := keeps_of_digits areDigits
  rw [gather_two_pow]
  apply nearestWhole_congr
  by_cases breaks : BreaksTie (2 ^ bits) digits
  · have large := Nat.le_of_not_lt fun finite => noBreak ⟨breaks, finite⟩
    have cut := wholeLimit_le_truncateBits large
    rw [Nat.min_eq_right (Nat.le_trans cut keeps.truncateBits_le),
      Nat.min_eq_right (Nat.le_trans cut (truncateBits_le_roundBits _))]
  · rw [keeps.nearest breaks]

/-- Where a tie is broken, digits are gathered to the double before the nearest. -/
theorem gather_succ_eq_nearestWhole {bits : Nat} {digits : List Nat}
    (areDigits : ∀ digit ∈ digits, digit < 2 ^ bits) (breaks : BreaksTie (2 ^ bits) digits)
    (finite : denoted (2 ^ bits) digits < wholeLimit) :
    gather (2 ^ bits) digits + 1 = nearestWhole (denoted (2 ^ bits) digits) := by
  have keeps := keeps_of_digits areDigits
  have cutShort := keeps.cutShort breaks
  have long : 2 ^ 52 ≤ denoted (2 ^ bits) digits := Nat.le_trans (by decide) cutShort.large
  rw [gather_two_pow]
  refine nearestWhole_succ ?_ ?_ cutShort.roundBits <;> rw [cutShort.cut]
  · exact two_pow_le_truncateBits long long
  · exact Nat.lt_of_le_of_lt (truncateBits_le _) finite

theorem Radix.exists_base_eq {radix : Radix} (known : radix ∈ radixes) :
    ∃ bits, radix.base = 2 ^ bits := by
  simp only [radixes, List.mem_cons, List.not_mem_nil, or_false] at known
  rcases known with rfl | rfl | rfl
  · exact ⟨4, rfl⟩
  · exact ⟨3, rfl⟩
  · exact ⟨1, rfl⟩

theorem lt_of_digitValue? {base value : Nat} {char : Char}
    (found : digitValue? base char = some value) : value < base := by
  simp only [digitValue?] at found
  split_ifs at found with _ inside _ inside _ inside <;> cases found <;> assumption

theorem exists_of_mem_mapM {α β : Type} {find? : α → Option β} {items : List α} {values : List β}
    (found : items.mapM find? = some values) {value : β} (member : value ∈ values) :
    ∃ item ∈ items, find? item = some value := by
  induction items generalizing values with
  | nil =>
      cases found
      exact absurd member List.not_mem_nil
  | cons item items ih =>
      rw [List.mapM_cons] at found
      obtain ⟨first, isFirst, found⟩ := Option.bind_eq_some_iff.1 found
      obtain ⟨others, areOthers, found⟩ := Option.bind_eq_some_iff.1 found
      cases found
      rcases List.mem_cons.1 member with rfl | further
      · exact ⟨item, List.mem_cons_self, isFirst⟩
      · obtain ⟨later, isLater, same⟩ := ih areOthers further
        exact ⟨later, List.mem_cons_of_mem _ isLater, same⟩

/-- What is announced is no decimal, as its mark neither is a digit nor begins an exponent. -/
theorem magnitude?_announced {radix : Radix} (known : radix ∈ radixes) {mark : Char}
    (isMark : mark ∈ radix.marks) (digits : List Char) :
    magnitude? ('0' :: mark :: digits) = none := by
  simp only [radixes, List.mem_cons, List.not_mem_nil, or_false] at known
  rcases known with rfl | rfl | rfl <;>
    simp only [List.mem_cons, List.not_mem_nil, or_false] at isMark <;>
    rcases isMark with rfl | rfl <;>
    simp [magnitude?, decimal?, exponent?, splitFraction]

theorem number?_of_announced {radix : Radix} (known : radix ∈ radixes) {mark : Char}
    (isMark : mark ∈ radix.marks) {digits : List Char} (nonempty : digits ≠ [])
    {values : List Nat} (read : digits.mapM (digitValue? radix.base) = some values) :
    number? (String.ofList ('0' :: mark :: digits)) =
      some (ofMagnitude false (gather radix.base values)) := by
  have isRadix : radix? mark = some radix.base :=
    radix?_eq_some_iff.2 ⟨radix, known, isMark, rfl⟩
  have announced : announced? ('0' :: mark :: digits) = some (gather radix.base values) := by
    simp [announced?, isRadix, nonempty, read]
  rw [number?_eq_forms, String.toList_ofList, splitSign_of_isDigit rfl]
  dsimp only
  rw [magnitude?_announced known isMark, announced, Option.map_some]

theorem number?_toString (value : Nat) :
    number? (toString value) = some (ofMagnitude false (nearestWhole value)) := by
  have areDigits := areDigits_toDigits value
  have isDecimal := decimal?_digits areDigits Nat.toDigits_ne_nil
  change number? (String.ofList (Nat.toDigits 10 value)) = _
  cases shape : Nat.toDigits 10 value with
  | nil => exact absurd shape Nat.toDigits_ne_nil
  | cons first rest =>
      rw [coefficient_toDigits, shape] at isDecimal
      rw [shape] at areDigits
      have isDigit := areDigits first List.mem_cons_self
      have notInfinity : first :: rest ≠ "Infinity".toList := by
        rintro same
        cases same
        exact absurd isDigit (by decide)
      rw [number?_eq_forms, String.toList_ofList, splitSign_of_isDigit isDigit]
      dsimp only
      rw [magnitude?, if_neg notInfinity, isDecimal, Option.map_some, Decimal.bits_whole]

/-- A literal that announces its radix is read as the double nearest to the number that its digits
denote, which is what the decimal of the same number is read as, unless it breaks a tie.  Then it
is read as the double before that. -/
theorem number?_announced {radix : Radix} (known : radix ∈ radixes) {mark : Char}
    (isMark : mark ∈ radix.marks) {digits : List Char} (nonempty : digits ≠ [])
    (areDigits : ∀ digit ∈ digits, radix.HasDigit digit) :
    ∃ values bits exact, digits.mapM (digitValue? radix.base) = some values ∧
      number? (String.ofList ('0' :: mark :: digits)) = some (ofMagnitude false bits) ∧
      number? (toString (denoted radix.base values)) = some (ofMagnitude false exact) ∧
      IsNearest exact (denoted radix.base values * quantaInOne) ∧
      (BreaksTie radix.base values ∧ denoted radix.base values < wholeLimit →
        bits + 1 = exact) ∧
      (¬ (BreaksTie radix.base values ∧ denoted radix.base values < wholeLimit) →
        bits = exact) := by
  have found : (digits.mapM (digitValue? radix.base)).isSome = true := by
    rw [mapM_isSome_iff]
    intro digit member
    exact (digitValue?_isSome_iff known).2 (areDigits digit member)
  obtain ⟨values, read⟩ := Option.isSome_iff_exists.1 found
  refine ⟨values, gather radix.base values, nearestWhole (denoted radix.base values), read,
    number?_of_announced known isMark nonempty read, number?_toString _, isNearest_nearest _, ?_⟩
  have within : ∀ value ∈ values, value < radix.base := by
    intro value member
    obtain ⟨digit, -, isDigit⟩ := exists_of_mem_mapM read member
    exact lt_of_digitValue? isDigit
  obtain ⟨bits, isPower⟩ := Radix.exists_base_eq known
  rw [isPower] at within ⊢
  exact ⟨fun breaks => gather_succ_eq_nearestWhole within breaks.1 breaks.2,
    gather_eq_nearestWhole within⟩

/-- The last digit but one makes a tie, and the last one breaks it. -/
theorem number?_announced_broken_tie :
    let radix : Radix :=
      { base := 16, marks := ['x', 'X'], digits := [('0', '9'), ('a', 'f'), ('A', 'F')] }
    let digits := "200000000000011".toList
    let first := [2, 0, 0, 0, 0, 0, 0, 0, 0, 0, 0, 0, 0, 1]
    radix ∈ radixes ∧ (∀ digit ∈ digits, radix.HasDigit digit) ∧
      TiesDown (denoted 16 first) ∧ denoted 16 (first ++ [1]) = 144115188075855889 ∧
      ∃ bits, number? "0x200000000000011" = some (ofMagnitude false bits) ∧
        number? "144115188075855889" = some (ofMagnitude false (bits + 1)) := by
  intro radix digits first
  have known : radix ∈ radixes := List.mem_cons_self
  have isMark : 'x' ∈ radix.marks := List.mem_cons_self
  have nonempty : digits ≠ [] := by decide +kernel
  have read : digits.mapM (digitValue? radix.base) = some (first ++ [1]) := by decide +kernel
  have areDigits : ∀ digit ∈ digits, radix.HasDigit digit := by
    intro digit member
    rw [← digitValue?_isSome_iff known]
    exact mapM_isSome_iff.1 (by rw [read]; rfl) digit member
  have tiesDown : TiesDown (denoted 16 first) := by decide +kernel
  have value : denoted 16 (first ++ [1]) = 144115188075855889 := by decide +kernel
  refine ⟨known, areDigits, tiesDown, value, ?_⟩
  obtain ⟨values, bits, exact, isRead, announced, decimal, -, slips, -⟩ :=
    number?_announced known isMark nonempty areDigits
  obtain rfl : first ++ [1] = values := Option.some.inj (read.symm.trans isRead)
  have finite : denoted 16 (first ++ [1]) < wholeLimit := by decide +kernel
  obtain rfl := slips ⟨⟨first, 1, [], rfl, tiesDown, by decide⟩, finite⟩
  rw [value] at decimal
  exact ⟨bits, announced, decimal⟩

/-- A number that is read as one double where it is written in base sixteen, and as the next where
it is written as a decimal. -/
theorem number?_announced_ne_toString :
    "200000000000011".toList.mapM (digitValue? 16) =
        some [2, 0, 0, 0, 0, 0, 0, 0, 0, 0, 0, 0, 0, 1, 1] ∧
      toString (denoted 16 [2, 0, 0, 0, 0, 0, 0, 0, 0, 0, 0, 0, 0, 1, 1]) =
        "144115188075855889" ∧
      number? "0x200000000000011" ≠ number? "144115188075855889" := by
  have hexadecimal :
      (number? "0x200000000000011").map magnitudeBits = some 0x4380000000000000 := by
    decide +kernel
  have decimal : (number? "144115188075855889").map magnitudeBits = some 0x4380000000000001 := by
    decide +kernel
  refine ⟨by decide +kernel, by decide +kernel, fun same => ?_⟩
  rw [same, decimal] at hexadecimal
  exact absurd hexadecimal (by decide)

end Literal

end MiniLisp
