import Mathlib
import MiniLisp.Number.Layout
import MiniLisp.Proofs.LiteralStages

/-!
# Written numbers are read back

The plain layout writes a finite number as the digits of its shortest decimal, with
zeros up to the point and a sign before it.  Read as a literal, these digits make the
same decimal or, where zeros stand for places before the point, one of the same
value, and the shortest decimal has the number for its nearest double.  So reading
gives the number back, down to the sign of zero.
-/

namespace MiniLisp

/-- A double is given by its sign and its magnitude. -/
theorem Double.ofMagnitude_magnitudeBits (double : Float) :
    ofMagnitude (isNegative double) (magnitudeBits double) = double := by
  have bound := double.toBits.toNat_lt
  have bits : (if isNegative double then signBit + magnitudeBits double
      else magnitudeBits double) = double.toBits.toNat := by
    unfold isNegative magnitudeBits signBit
    simp only [decide_eq_true_eq]
    split <;> omega
  rw [ofMagnitude, bits, UInt64.ofNat_toNat, Float.ofBits_toBits]

def AreDigits (characters : List Char) : Prop :=
  ∀ char ∈ characters, char.isDigit = true

theorem areDigits_append {digits more : List Char} :
    AreDigits (digits ++ more) ↔ AreDigits digits ∧ AreDigits more :=
  List.forall_mem_append

theorem areDigits_replicate (count : Nat) : AreDigits (List.replicate count '0') := by
  intro char member
  rw [List.eq_of_mem_replicate member]
  rfl

theorem areDigits_toDigits (value : Nat) : AreDigits (Nat.toDigits 10 value) := by
  intro char member
  exact Nat.isDigit_of_mem_toDigits (by decide) (by decide) member

namespace Literal

theorem coefficient_toDigits (value : Nat) : coefficient (Nat.toDigits 10 value) = value :=
  Nat.ofDigitChars_ten_toDigits

theorem coefficient_replicate_append (count : Nat) (digits : List Char) :
    coefficient (List.replicate count '0' ++ digits) = coefficient digits := by
  change Nat.ofDigitChars 10 _ 0 = Nat.ofDigitChars 10 _ 0
  rw [Nat.ofDigitChars_append, Nat.ofDigitChars_replicate_zero, Nat.mul_zero]

theorem coefficient_append_replicate (digits : List Char) (count : Nat) :
    coefficient (digits ++ List.replicate count '0') = coefficient digits * Nat.pow 10 count := by
  change Nat.ofDigitChars 10 _ 0 = Nat.ofDigitChars 10 _ 0 * _
  rw [Nat.ofDigitChars_append, Nat.ofDigitChars_replicate_zero, Nat.mul_comm]
  rfl

theorem decimal?_digits {digits : List Char} (areDigits : AreDigits digits)
    (nonempty : digits ≠ []) :
    decimal? digits = some { coefficient := coefficient digits, place := 0 } := by
  have taken : digits.takeWhile Char.isDigit = digits := List.takeWhile_eq_self_iff.2 areDigits
  have dropped : digits.dropWhile Char.isDigit = [] := List.dropWhile_eq_nil_iff.2 areDigits
  simp [decimal?, taken, dropped, nonempty, splitFraction, exponent?]

theorem decimal?_point {whole fraction : List Char} (wholeDigits : AreDigits whole)
    (fractionDigits : AreDigits fraction) (nonempty : whole ≠ []) :
    decimal? (whole ++ '.' :: fraction) =
      some { coefficient := coefficient (whole ++ fraction), place := -fraction.length } := by
  have taken : (whole ++ '.' :: fraction).takeWhile Char.isDigit = whole := by
    rw [List.takeWhile_append_of_pos wholeDigits]
    simp
  have dropped : (whole ++ '.' :: fraction).dropWhile Char.isDigit = '.' :: fraction := by
    rw [List.dropWhile_append_of_pos wholeDigits]
    simp
  have fractionTaken : fraction.takeWhile Char.isDigit = fraction :=
    List.takeWhile_eq_self_iff.2 fractionDigits
  have fractionDropped : fraction.dropWhile Char.isDigit = [] :=
    List.dropWhile_eq_nil_iff.2 fractionDigits
  simp [decimal?, taken, dropped, fractionTaken, fractionDropped, nonempty, splitFraction,
    exponent?]

end Literal

namespace Decimal

/-- The digits of a decimal up to the point. -/
theorem positional_of_nonneg {decimal : Decimal} (above : 0 ≤ decimal.place) :
    decimal.positional =
      Nat.toDigits 10 decimal.coefficient ++ List.replicate decimal.place.toNat '0' := by
  have below : (-decimal.place).toNat = 0 := by omega
  have atLeastOne := Nat.length_toDigits_pos (b := 10) (n := decimal.coefficient)
  have noPadding : 0 + 1 - (Nat.toDigits 10 decimal.coefficient).length = 0 := by omega
  simp only [positional]
  rw [if_neg (by omega), below, noPadding]
  rfl

/-- The digits of a decimal, with enough zeros before them for the point to have a
digit on its left. -/
theorem exists_positional_of_neg {decimal : Decimal} (below : decimal.place < 0) :
    ∃ whole fraction padding, decimal.positional = whole ++ '.' :: fraction ∧
      whole ++ fraction =
        List.replicate padding '0' ++ Nat.toDigits 10 decimal.coefficient ∧
      whole ≠ [] ∧ (fraction.length : Int) = -decimal.place := by
  have above : decimal.place.toNat = 0 := by omega
  have negative : ((-decimal.place).toNat : Int) = -decimal.place := by omega
  simp only [positional]
  rw [if_pos below, above, List.replicate_zero, List.append_nil]
  generalize (-decimal.place).toNat = places at negative ⊢
  generalize shape : List.replicate (places + 1 - (Nat.toDigits 10 decimal.coefficient).length)
    '0' ++ Nat.toDigits 10 decimal.coefficient = padded
  have long : places < padded.length := by
    rw [← shape, List.length_append, List.length_replicate]
    omega
  refine ⟨padded.take (padded.length - places), padded.drop (padded.length - places),
    places + 1 - (Nat.toDigits 10 decimal.coefficient).length, rfl, ?_, ?_, ?_⟩
  · rw [List.take_append_drop, shape]
  · rw [← List.length_pos_iff, List.length_take]
    omega
  · rw [List.length_drop, ← negative]
    omega

/-- Written out without an exponent, a decimal reads as one of the same value. -/
theorem decimal?_positional (decimal : Decimal) :
    (Literal.decimal? decimal.positional).map bits = some decimal.bits := by
  have digits := areDigits_toDigits decimal.coefficient
  by_cases below : decimal.place < 0
  · obtain ⟨whole, fraction, padding, written, padded, nonempty, places⟩ :=
      exists_positional_of_neg below
    have allDigits : AreDigits (whole ++ fraction) := by
      rw [padded]
      exact areDigits_append.2 ⟨areDigits_replicate padding, digits⟩
    obtain ⟨wholeDigits, fractionDigits⟩ := areDigits_append.1 allDigits
    rw [written, Literal.decimal?_point wholeDigits fractionDigits nonempty, padded,
      Literal.coefficient_replicate_append, Literal.coefficient_toDigits, places, Int.neg_neg]
    rfl
  · have above := Int.not_lt.1 below
    have allDigits := areDigits_append.2 ⟨digits, areDigits_replicate decimal.place.toNat⟩
    have nonempty : Nat.toDigits 10 decimal.coefficient ++
        List.replicate decimal.place.toNat '0' ≠ [] := by
      simp [Nat.toDigits_ne_nil]
    rw [positional_of_nonneg above, Literal.decimal?_digits allDigits nonempty,
      Literal.coefficient_append_replicate, Literal.coefficient_toDigits]
    have whole : (-decimal.place).toNat = 0 := by omega
    simp [bits, whole]

/-- A positional decimal begins with a digit, and consists of digits but for a point. -/
theorem exists_positional_cons (decimal : Decimal) :
    ∃ first rest, decimal.positional = first :: rest ∧ first.isDigit = true ∧
      ∀ char ∈ rest, char.isDigit = true ∨ char = '.' := by
  have digits := areDigits_toDigits decimal.coefficient
  by_cases below : decimal.place < 0
  · obtain ⟨whole, fraction, padding, written, padded, nonempty, -⟩ :=
      exists_positional_of_neg below
    have allDigits : AreDigits (whole ++ fraction) := by
      rw [padded]
      exact areDigits_append.2 ⟨areDigits_replicate padding, digits⟩
    cases whole with
    | nil => exact absurd rfl nonempty
    | cons first rest =>
        refine ⟨first, rest ++ '.' :: fraction, written, allDigits first (by simp), ?_⟩
        intro char member
        rcases List.mem_append.1 member with inWhole | inFraction
        · exact .inl (allDigits char (by simp [inWhole]))
        · rcases List.mem_cons.1 inFraction with isPoint | inFraction
          · exact .inr isPoint
          · exact .inl (allDigits char (by simp [inFraction]))
  · have allDigits := areDigits_append.2 ⟨digits, areDigits_replicate decimal.place.toNat⟩
    rw [← positional_of_nonneg (Int.not_lt.1 below)] at allDigits
    cases shape : decimal.positional with
    | nil =>
        rw [positional_of_nonneg (Int.not_lt.1 below)] at shape
        exact absurd (List.append_eq_nil_iff.1 shape).1 Nat.toDigits_ne_nil
    | cons first rest =>
        rw [shape] at allDigits
        refine ⟨first, rest, rfl, allDigits first List.mem_cons_self, ?_⟩
        intro char member
        exact .inl (allDigits char (List.mem_cons_of_mem _ member))

end Decimal

/-- A finite number is written as its shortest decimal after its sign. -/
theorem NumberLayout.write_plain {double : Float} (finite : Double.isFinite double = true) :
    plain.write double =
      (if Double.isNegative double then ['-'] else []) ++
        (Decimal.shortest (Double.magnitudeBits double)).positional := by
  have bound := of_decide_eq_true finite
  have number : Double.isNaN double = false :=
    decide_eq_false (Nat.not_lt_of_gt bound)
  rw [write, number, if_neg Bool.false_ne_true, if_pos finite]
  have written : plain.writeFinite (Double.magnitudeBits double) =
      (Decimal.shortest (Double.magnitudeBits double)).positional := by
    simp [writeFinite, plain]
  rw [written]
  dsimp only
  split <;> rfl

/-- What is not finite has one of three spellings. -/
theorem NumberLayout.write_of_not_finite (layout : NumberLayout) {double : Float}
    (infinite : Double.isFinite double = false) :
    layout.write double = "NaN".toList ∨ layout.write double = "inf".toList ∨
      layout.write double = "-inf".toList := by
  rw [write, infinite]
  cases Double.isNaN double with
  | true => exact .inl rfl
  | false =>
      cases Double.isNegative double with
      | true => exact .inr (.inr rfl)
      | false => exact .inr (.inl rfl)

namespace Literal

theorem splitSign_of_isDigit {first : Char} (isDigit : first.isDigit = true) (rest : List Char) :
    splitSign (first :: rest) = (false, first :: rest) := by
  unfold splitSign
  split
  · next shape =>
    cases shape
    exact absurd isDigit (by decide)
  · next shape =>
    cases shape
    exact absurd isDigit (by decide)
  · rfl

/-- A finite number is read back from what is written. -/
theorem number?_write {double : Float} (finite : Double.isFinite double = true) :
    number? (String.ofList (NumberLayout.plain.write double)) = some double := by
  obtain ⟨first, rest, shape, isDigit, -⟩ :=
    Decimal.exists_positional_cons (Decimal.shortest (Double.magnitudeBits double))
  have signed : splitSign (NumberLayout.plain.write double) =
      (Double.isNegative double,
        (Decimal.shortest (Double.magnitudeBits double)).positional) := by
    rw [NumberLayout.write_plain finite]
    cases Double.isNegative double with
    | true => rfl
    | false =>
        rw [shape]
        exact splitSign_of_isDigit isDigit rest
  have read : magnitude? (Decimal.shortest (Double.magnitudeBits double)).positional =
      some (Double.magnitudeBits double) := by
    have notInfinity : first :: rest ≠ "Infinity".toList := by
      rintro same
      cases same
      exact absurd isDigit (by decide)
    rw [magnitude?, shape, if_neg notInfinity, ← shape, Decimal.decimal?_positional,
      Decimal.bits_shortest (of_decide_eq_true finite)]
  rw [number?_eq_forms, String.toList_ofList, signed]
  dsimp only
  rw [read]
  exact congrArg some (Double.ofMagnitude_magnitudeBits double)

end Literal

end MiniLisp
