import Mathlib
import MiniLisp.Cursor.Lemmas
import MiniLisp.Number.Literal

/-!
# The stages of reading a number

A word is looked at in stages, each of which may decide the matter for the later ones.
Together they look for one of two things: a decimal or `Infinity` after at most one sign, or
the whole word as a literal that announces its radix.  A letter at the beginning leaves only
`Infinity`, so that no other word for a double gets to the stage that would take it, and what
is spelled is always a number.  The cursor of the last stage goes back when it finds no
literal, and one that it finds must have nothing after it.
-/

namespace MiniLisp

namespace Double

theorem nearest_le (numerator denominator : Nat) :
    nearest numerator denominator ≤ infinityBits :=
  Nat.min_le_right _ _

theorem isNaNBits_eq_false {bits : UInt64} (number : bits.toNat % signBit ≤ infinityBits) :
    @Float.Model.UnpackedFloat.isNaNBits .binary64 bits.toBitVec = false := by
  refine decide_eq_false ?_
  rintro ⟨exponent, mantissa⟩
  have full := congrArg BitVec.toNat exponent
  have nonzero := mt BitVec.eq_of_toNat_eq mantissa
  simp only [Float.Model.UnpackedFloat.unpackExponent,
    Float.Model.UnpackedFloat.unpackMantissa] at full nonzero
  simp [Nat.shiftRight_eq_div_pow] at full nonzero
  unfold signBit infinityBits at number
  omega

theorem toBits_ofBits {bits : UInt64} (number : bits.toNat % signBit ≤ infinityBits) :
    (Float.ofBits bits).toBits = bits := by
  have packed := @Float.Model.UnpackedFloat.pack_unpack .binary64 bits.toBitVec (by decide)
  rw [isNaNBits_eq_false number, if_neg Bool.false_ne_true] at packed
  simp only [Float.ofBits, Float.toBits, Float.Model.ofBits, Float.Model.pack, packed]

theorem toNat_toBits_ofMagnitude (negative : Bool) {bits : Nat} (number : bits ≤ infinityBits) :
    (ofMagnitude negative bits).toBits.toNat = if negative then signBit + bits else bits := by
  unfold infinityBits at number
  have exact : (UInt64.ofNat (if negative then signBit + bits else bits)).toNat =
      if negative then signBit + bits else bits := by
    apply UInt64.toNat_ofNat_of_lt
    unfold signBit
    split <;> simp only [UInt64.size] <;> omega
  rw [ofMagnitude, toBits_ofBits, exact]
  rw [exact]
  unfold infinityBits signBit
  split <;> omega

theorem magnitudeBits_ofMagnitude (negative : Bool) {bits : Nat} (number : bits ≤ infinityBits) :
    magnitudeBits (ofMagnitude negative bits) = bits := by
  rw [magnitudeBits, toNat_toBits_ofMagnitude negative number]
  unfold infinityBits signBit at *
  split <;> omega

theorem isNaN_ofMagnitude (negative : Bool) {bits : Nat} (number : bits ≤ infinityBits) :
    isNaN (ofMagnitude negative bits) = false := by
  rw [isNaN, magnitudeBits_ofMagnitude negative number]
  exact decide_eq_false (Nat.not_lt_of_le number)

end Double

namespace Literal

/-- The bits of the number that unsigned characters spell, radixes aside. -/
def magnitude? (unsigned : List Char) : Option Nat :=
  if unsigned = "Infinity".toList then some Double.infinityBits
  else (decimal? unsigned).map Decimal.bits

/-- The bits of the number that characters denote in a radix that they announce. -/
def announced? : List Char → Option Nat
  | '0' :: mark :: digits => do
    let radix ← radix? mark
    if digits.isEmpty then none
    else
      let values ← digits.mapM (digitValue? radix)
      return gather radix values
  | _ => none

theorem le_of_magnitude?_eq_some {unsigned : List Char} {bits : Nat}
    (found : magnitude? unsigned = some bits) : bits ≤ Double.infinityBits := by
  unfold magnitude? at found
  split at found
  · cases found
    exact Nat.le_refl _
  · obtain ⟨decimal, -, rfl⟩ := Option.map_eq_some_iff.1 found
    exact Double.nearest_le _ _

theorem not_isDigit_of_isAlpha {char : Char} (isAlpha : char.isAlpha = true) :
    char.isDigit = false := by
  rw [Bool.eq_false_iff]
  intro isDigit
  rw [Char.isDigit_iff_toNat] at isDigit
  simp only [Char.isAlpha, Char.isUpper, Char.isLower, Bool.or_eq_true, Bool.and_eq_true,
    decide_eq_true_eq, ge_iff_le, UInt32.le_iff_toNat_le, Char.toNat_val,
    Char.reduceToNat] at isAlpha isDigit
  omega

theorem ne_of_isAlpha {char other : Char} (isAlpha : char.isAlpha = true)
    (notAlpha : other.isAlpha = false) : char ≠ other := by
  rintro rfl
  rw [isAlpha] at notAlpha
  cases notAlpha

/-- What begins with a letter is no decimal. -/
theorem decimal?_of_isAlpha {first : Char} (isAlpha : first.isAlpha = true) (rest : List Char) :
    decimal? (first :: rest) = none := by
  have noDigit := not_isDigit_of_isAlpha isAlpha
  have noPoint : splitFraction (first :: rest) = ([], first :: rest) := by
    unfold splitFraction
    split
    · next shape => exact absurd (List.cons.inj shape).1 (ne_of_isAlpha isAlpha rfl)
    · rfl
  simp [decimal?, noDigit, noPoint]

theorem exists_isAlpha_of_spelled {letters : List Char}
    (spelled : letters.map Char.toLower ∈ ["inf".toList, "infinity".toList, "nan".toList]) :
    ∃ first rest, letters = first :: rest ∧ first.isAlpha = true := by
  cases letters with
  | nil => exact absurd spelled (by decide)
  | cons first rest =>
      refine ⟨first, rest, rfl, ?_⟩
      rw [← Char.isAlpha_toLower_eq_isAlpha]
      simp only [List.map_cons, List.mem_cons, List.not_mem_nil, or_false] at spelled
      rcases spelled with isInf | isInfinity | isNan
      · rw [(List.cons.inj isInf).1]
        rfl
      · rw [(List.cons.inj isInfinity).1]
        rfl
      · rw [(List.cons.inj isNan).1]
        rfl

/-- Past the stage that refuses other words, what is spelled is a decimal or `Infinity`. -/
theorem spelledBits?_eq_magnitude? {unsigned : List Char} (passed : isOtherWord unsigned = false) :
    spelledBits? unsigned = magnitude? unsigned := by
  by_cases isInfinity : unsigned = "Infinity".toList
  · rw [isInfinity]
    rfl
  · have noWord : unsigned.map Char.toLower ∉
        ["inf".toList, "infinity".toList, "nan".toList] := by
      intro spelled
      obtain ⟨first, rest, rfl, isAlpha⟩ := exists_isAlpha_of_spelled spelled
      rw [isOtherWord, List.head?_cons, Option.any_some, isAlpha, Bool.true_and,
        bne_eq_false_iff_eq] at passed
      exact isInfinity passed
    simp only [List.mem_cons, List.not_mem_nil, or_false, not_or] at noWord
    obtain ⟨noInf, noInfinity, noNan⟩ := noWord
    rw [spelledBits?, if_neg (by simp only [noInf, noInfinity, decide_false, Bool.or_self,
      Bool.false_eq_true, not_false_eq_true]), if_neg noNan, magnitude?, if_neg isInfinity]

/-- A word that the first stage refuses has none of the two forms. -/
theorem of_isOtherWord {characters : List Char}
    (refused : isOtherWord (splitSign characters).2 = true) :
    magnitude? (splitSign characters).2 = none ∧ announced? characters = none := by
  rw [isOtherWord, Bool.and_eq_true, bne_iff_ne] at refused
  obtain ⟨begins, notInfinity⟩ := refused
  constructor
  · cases shape : (splitSign characters).2 with
    | nil =>
        rw [shape] at begins
        cases begins
    | cons first rest =>
        rw [shape] at begins notInfinity
        rw [magnitude?, if_neg notInfinity, decimal?_of_isAlpha begins, Option.map_none]
  · unfold announced?
    split
    · cases begins
    · rfl

theorem mapM_isSome_iff {α β : Type} {find? : α → Option β} {items : List α} :
    (items.mapM find?).isSome = true ↔ ∀ item ∈ items, (find? item).isSome = true := by
  induction items with
  | nil => simp
  | cons item items ih =>
      rw [List.mapM_cons, List.forall_mem_cons, ← ih]
      cases find? item with
      | none => simp
      | some value => cases items.mapM find? <;> simp

/-- A word has a radix announced in it if the digits after the mark begin at once and take up the
rest of it. -/
theorem announced?_eq_radixBits? {mark : Char} {radix : Nat} (isRadix : radix? mark = some radix)
    (digits : List Char) :
    announced? ('0' :: mark :: digits) =
      if digits.head?.any (isDigitIn radix) then
        if (digits.dropWhile (isDigitIn radix)).isEmpty then
          radixBits? ('0' :: mark :: digits.takeWhile (isDigitIn radix))
        else none
      else none := by
  have whole := List.takeWhile_append_dropWhile (p := isDigitIn radix) (l := digits)
  cases begins : digits.head?.any (isDigitIn radix) with
  | false =>
      cases digits with
      | nil => simp [announced?, isRadix]
      | cons first rest =>
          have noDigit : digitValue? radix first = none := by simpa [isDigitIn] using begins
          simp [announced?, isRadix, List.mapM_cons, noDigit]
  | true =>
      have nonempty : digits.isEmpty = false := by
        cases digits with
        | nil => cases begins
        | cons first rest => rfl
      by_cases ends : digits.dropWhile (isDigitIn radix) = []
      · rw [ends, List.append_nil] at whole
        simp [announced?, radixBits?, isRadix, nonempty, ends, whole]
      · -- A character that is no digit comes after the digits, so that not all of them are.
        have notAll : digits.mapM (digitValue? radix) = none := by
          rw [← Option.not_isSome_iff_eq_none, mapM_isSome_iff]
          intro areDigits
          exact ends (List.dropWhile_eq_nil_iff.2 areDigits)
        simp [announced?, isRadix, nonempty, ends, notAll]

theorem exists_radix_of_mem {mark : Char}
    (isMark : ['x', 'X', 'o', 'O', 'b', 'B'].contains mark = true) :
    ∃ radix, radix? mark = some radix := by
  simp only [List.contains_iff_mem, List.mem_cons, List.not_mem_nil, or_false] at isMark
  rcases isMark with rfl | rfl | rfl | rfl | rfl | rfl
  all_goals exact ⟨_, rfl⟩

theorem radix?_eq_none {mark : Char}
    (noMark : ['x', 'X', 'o', 'O', 'b', 'B'].contains mark = false) : radix? mark = none := by
  simp only [List.contains_eq_mem, List.mem_cons, List.not_mem_nil, or_false,
    decide_eq_false_iff_not, not_or] at noMark
  simp [radix?, noMark]

/-- Either a zero and a mark are passed, and then the digits after them, or there is no literal at
the cursor. -/
theorem passAnnounced_cases {σ : Type*} [Source σ Char] (cursor : Cursor σ Char) :
    (∃ mark radix, ∃ pastMark : Cursor σ Char, radix? mark = some radix ∧
        cursor.remaining = '0' :: mark :: pastMark.remaining ∧
        pastMark.passed = mark :: '0' :: cursor.passed ∧
        passAnnounced cursor = pastMark.skipWhile (isDigitIn radix)) ∨
      (passAnnounced cursor).1 = false ∧ announced? cursor.remaining = none := by
  unfold passAnnounced
  cases accepted : cursor.accept '0' with
  | mk zero pastZero =>
    cases zero with
    | none =>
        have noZero := @Cursor.of_acceptAny_eq_none _ _ _ _ _ _ _ accepted
        refine .inr ⟨rfl, ?_⟩
        unfold announced?
        split
        · next shape =>
          rw [shape] at noZero
          exact absurd (noZero rfl) (by decide)
        · rfl
    | some zero =>
        obtain ⟨isZero, toCome, passedZero⟩ := Cursor.of_acceptAny_eq_some accepted
        obtain rfl : zero = '0' := by simpa using isZero
        rw [toCome]
        cases marked : pastZero.acceptAny ['x', 'X', 'o', 'O', 'b', 'B'] with
        | mk mark pastMark =>
          cases mark with
          | none =>
              have noMark := @Cursor.of_acceptAny_eq_none _ _ _ _ _ _ _ marked
              refine .inr ⟨by dsimp only; rw [marked], ?_⟩
              cases shape : pastZero.remaining with
              | nil => rfl
              | cons mark digits =>
                  rw [shape] at noMark
                  simp [announced?, radix?_eq_none (noMark rfl)]
          | some mark =>
              obtain ⟨isMark, digitsToCome, passedMark⟩ := Cursor.of_acceptAny_eq_some marked
              obtain ⟨radix, isRadix⟩ := exists_radix_of_mem isMark
              refine .inl ⟨mark, radix, pastMark, isRadix, by rw [digitsToCome], ?_, ?_⟩
              · rw [passedMark, passedZero]
              · dsimp only
                rw [marked]
                dsimp only
                rw [skipDigits, isRadix]

/-- What the cursor finds is the literal that the word as a whole is. -/
theorem announcedBits?_eq_announced? (characters : List Char) :
    announcedBits? characters = announced? characters := by
  have start : (Cursor.ofSource characters).remaining = characters := by simp
  rcases passAnnounced_cases (Cursor.ofSource characters) with
    ⟨mark, radix, pastMark, isRadix, toCome, passed, skipped⟩ | ⟨nothing, noLiteral⟩
  · rw [start] at toCome
    rw [announcedBits?, scanAnnounced, skipped, toCome, announced?_eq_radixBits? isRadix,
      Cursor.skipWhile, ← Cursor.skipWhile_fst, Cursor.skipWhile]
    cases pastMark.look.ahead.head?.any (isDigitIn radix) with
    | false => rfl
    | true => simp [Cursor.cut, Cursor.passed_passWhile, passed, Cursor.ofSource]
  · rw [start] at noLiteral
    rw [announcedBits?, scanAnnounced, noLiteral]
    cases passed : passAnnounced (Cursor.ofSource characters) with
    | mk found after =>
        rw [passed] at nothing
        cases nothing
        rfl

/-- The stages together look for one of two forms. -/
theorem number?_eq_forms (word : String) :
    number? word =
      match magnitude? (splitSign word.toList).2 with
      | some bits => some (Double.ofMagnitude (splitSign word.toList).1 bits)
      | none => (announced? word.toList).map (Double.ofMagnitude false) := by
  rw [number?]
  cases passed : isOtherWord (splitSign word.toList).2 with
  | true =>
      obtain ⟨noMagnitude, noLiteral⟩ := of_isOtherWord passed
      rw [noMagnitude, noLiteral]
      rfl
  | false =>
      have spelled : spelled? word.toList =
          (magnitude? (splitSign word.toList).2).map
            (Double.ofMagnitude (splitSign word.toList).1) := by
        rw [← spelledBits?_eq_magnitude? passed]
        rfl
      rw [spelled, announcedBits?_eq_announced?]
      cases found : magnitude? (splitSign word.toList).2 with
      | none => rfl
      | some bits =>
          have isNumber :=
            Double.isNaN_ofMagnitude (splitSign word.toList).1 (le_of_magnitude?_eq_some found)
          simp [isNumber]

end Literal

end MiniLisp
