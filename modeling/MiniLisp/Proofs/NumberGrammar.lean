import MiniLisp.Expr.Atom
import MiniLisp.Proofs.WrittenNumbers

/-!
# The grammar of number literals

Which words are number literals is told here by a grammar: the word `Infinity` and
decimals, each with at most one sign, and whole numbers in one of three radixes, which are
announced and have no sign.  A word is read as a number if and only if it has one of these
forms, and what it is read as is never something that is not a number.  Every other word is
one of three literals or the symbol that it spells.

Reading looks for the forms in stages, which take more words than the grammar has and refuse
some of them before, and cuts a word where its digits end.  The grammar says nothing of that
order, so each form needs to be told from the others by its first characters.
-/

namespace MiniLisp

namespace Literal

def signs : List (List Char) :=
  [[], ['+'], ['-']]

/-- What may follow the digits of a decimal: nothing, or an exponent. -/
inductive IsExponent : List Char → Prop where
  | absent : IsExponent []
  | present {mark : Char} {sign digits : List Char} (isMark : mark = 'e' ∨ mark = 'E')
      (isSign : sign ∈ signs) (areDigits : AreDigits digits) (nonempty : digits ≠ []) :
      IsExponent (mark :: (sign ++ digits))

/-- Decimals without a sign: digits, perhaps with a point before, between or after them. -/
inductive IsDecimal : List Char → Prop where
  | whole {digits exponent : List Char} (areDigits : AreDigits digits) (nonempty : digits ≠ [])
      (isExponent : IsExponent exponent) : IsDecimal (digits ++ exponent)
  | pointed {whole fraction exponent : List Char} (wholeDigits : AreDigits whole)
      (fractionDigits : AreDigits fraction) (nonempty : whole ≠ [] ∨ fraction ≠ [])
      (isExponent : IsExponent exponent) : IsDecimal (whole ++ '.' :: (fraction ++ exponent))

/-- A radix, with the letters that announce it and the ranges that its digits fill. -/
structure Radix where
  base : Nat
  marks : List Char
  digits : List (Char × Char)

def radixes : List Radix :=
  [{ base := 16, marks := ['x', 'X'], digits := [('0', '9'), ('a', 'f'), ('A', 'F')] },
    { base := 8, marks := ['o', 'O'], digits := [('0', '7')] },
    { base := 2, marks := ['b', 'B'], digits := [('0', '1')] }]

def Radix.HasDigit (radix : Radix) (char : Char) : Prop :=
  ∃ range ∈ radix.digits, range.1 ≤ char ∧ char ≤ range.2

/-- Whole numbers in a radix that they announce. -/
inductive IsAnnounced : List Char → Prop where
  | intro {radix : Radix} {mark : Char} {digits : List Char} (known : radix ∈ radixes)
      (isMark : mark ∈ radix.marks) (nonempty : digits ≠ [])
      (areDigits : ∀ digit ∈ digits, radix.HasDigit digit) :
      IsAnnounced ('0' :: mark :: digits)

/-- The words that are number literals. -/
inductive IsNumeral : List Char → Prop where
  | infinity {sign : List Char} (isSign : sign ∈ signs) :
      IsNumeral (sign ++ "Infinity".toList)
  | decimal {sign unsigned : List Char} (isSign : sign ∈ signs)
      (isDecimal : IsDecimal unsigned) : IsNumeral (sign ++ unsigned)
  | announced {characters : List Char} (isAnnounced : IsAnnounced characters) :
      IsNumeral characters

theorem exists_sign (characters : List Char) :
    ∃ sign ∈ signs, characters = sign ++ (splitSign characters).2 := by
  unfold splitSign
  split
  · exact ⟨['-'], by simp [signs], rfl⟩
  · exact ⟨['+'], by simp [signs], rfl⟩
  · exact ⟨[], by simp [signs], rfl⟩

/-- A sign is split off from what does not begin with another one. -/
theorem splitSign_append {sign : List Char} (isSign : sign ∈ signs) {first : Char}
    (notPlus : first ≠ '+') (notMinus : first ≠ '-') (rest : List Char) :
    (splitSign (sign ++ first :: rest)).2 = first :: rest := by
  simp only [signs, List.mem_cons, List.not_mem_nil, or_false] at isSign
  rcases isSign with rfl | rfl | rfl
  · simp [splitSign, notPlus, notMinus]
  · rfl
  · rfl

theorem ne_sign_of_isDigit {char : Char} (isDigit : char.isDigit = true) :
    char ≠ '+' ∧ char ≠ '-' := by
  constructor
  · rintro rfl
    exact absurd isDigit (by decide)
  · rintro rfl
    exact absurd isDigit (by decide)

theorem exponent?_isSome_iff {characters : List Char} :
    (exponent? characters).isSome = true ↔ IsExponent characters := by
  constructor
  · intro found
    cases characters with
    | nil => exact .absent
    | cons mark signed =>
        obtain ⟨sign, isSign, shape⟩ := exists_sign signed
        simp only [exponent?] at found
        split at found
        · next valid =>
          simp only [Bool.and_eq_true, Bool.or_eq_true, beq_iff_eq, Bool.not_eq_true',
            List.isEmpty_eq_false_iff, List.all_eq_true] at valid
          obtain ⟨⟨isMark, nonempty⟩, areDigits⟩ := valid
          rw [shape]
          exact .present isMark isSign areDigits nonempty
        · cases found
  · intro isExponent
    cases isExponent with
    | absent => rfl
    | present isMark isSign areDigits nonempty =>
        obtain ⟨first, others, rfl⟩ := List.exists_cons_of_ne_nil nonempty
        obtain ⟨notPlus, notMinus⟩ := ne_sign_of_isDigit (areDigits first List.mem_cons_self)
        have allDigits : (first :: others).all Char.isDigit = true :=
          List.all_eq_true.2 areDigits
        simp only [exponent?, splitSign_append isSign notPlus notMinus, allDigits]
        simp [isMark]

/-- Digits end where an exponent begins. -/
theorem IsExponent.ends {exponent : List Char} (isExponent : IsExponent exponent) :
    exponent.takeWhile Char.isDigit = [] ∧ exponent.dropWhile Char.isDigit = exponent ∧
      splitFraction exponent = ([], exponent) := by
  cases isExponent with
  | absent => exact ⟨rfl, rfl, rfl⟩
  | present isMark isSign areDigits nonempty =>
      rcases isMark with rfl | rfl
      · exact ⟨rfl, rfl, rfl⟩
      · exact ⟨rfl, rfl, rfl⟩

theorem decimal?_isSome_iff_parts {unsigned : List Char} :
    (decimal? unsigned).isSome = true ↔
      (unsigned.takeWhile Char.isDigit ≠ [] ∨
          (splitFraction (unsigned.dropWhile Char.isDigit)).1 ≠ []) ∧
        IsExponent (splitFraction (unsigned.dropWhile Char.isDigit)).2 := by
  rw [← exponent?_isSome_iff]
  simp only [decimal?]
  split
  · next empty =>
    simp only [Bool.and_eq_true, List.isEmpty_iff] at empty
    simp [empty.1, empty.2]
  · next nonempty =>
    simp only [Bool.and_eq_true, List.isEmpty_iff, not_and_or] at nonempty
    rw [Option.isSome_map, and_iff_right nonempty]

theorem decimal?_isSome_iff {unsigned : List Char} :
    (decimal? unsigned).isSome = true ↔ IsDecimal unsigned := by
  rw [decimal?_isSome_iff_parts]
  constructor
  · rintro ⟨nonempty, isExponent⟩
    have wholeDigits : AreDigits (unsigned.takeWhile Char.isDigit) :=
      fun char member => List.mem_takeWhile_imp member
    rw [← List.takeWhile_append_dropWhile (p := Char.isDigit) (l := unsigned)]
    unfold splitFraction at nonempty isExponent
    split at isExponent
    · next rest shape =>
      have fractionDigits : AreDigits (rest.takeWhile Char.isDigit) :=
        fun char member => List.mem_takeWhile_imp member
      rw [shape] at nonempty ⊢
      rw [← List.takeWhile_append_dropWhile (p := Char.isDigit) (l := rest)]
      exact .pointed wholeDigits fractionDigits nonempty isExponent
    · next noPoint =>
      simp only [ne_eq, not_true_eq_false, or_false] at nonempty
      exact .whole wholeDigits nonempty isExponent
  · intro isDecimal
    cases isDecimal with
    | whole areDigits nonempty isExponent =>
        obtain ⟨taken, dropped, noFraction⟩ := isExponent.ends
        rw [List.takeWhile_append_of_pos areDigits, List.dropWhile_append_of_pos areDigits, taken,
          dropped, noFraction, List.append_nil]
        exact ⟨.inl nonempty, isExponent⟩
    | pointed wholeDigits fractionDigits nonempty isExponent =>
        obtain ⟨taken, dropped, -⟩ := isExponent.ends
        have atPoint : ∀ rest, ('.' :: rest).takeWhile Char.isDigit = [] ∧
            ('.' :: rest).dropWhile Char.isDigit = '.' :: rest := fun rest => ⟨rfl, rfl⟩
        rw [List.takeWhile_append_of_pos wholeDigits, List.dropWhile_append_of_pos wholeDigits,
          (atPoint _).1, (atPoint _).2, splitFraction,
          List.takeWhile_append_of_pos fractionDigits,
          List.dropWhile_append_of_pos fractionDigits, taken, dropped, List.append_nil,
          List.append_nil]
        exact ⟨nonempty, isExponent⟩

/-- A decimal begins with a digit or with the point. -/
theorem IsDecimal.exists_cons {unsigned : List Char} (isDecimal : IsDecimal unsigned) :
    ∃ first rest, unsigned = first :: rest ∧ (first.isDigit = true ∨ first = '.') := by
  cases isDecimal with
  | @whole digits exponent areDigits nonempty isExponent =>
      obtain ⟨first, others, rfl⟩ := List.exists_cons_of_ne_nil nonempty
      exact ⟨first, others ++ exponent, rfl, .inl (areDigits first List.mem_cons_self)⟩
  | @pointed whole fraction exponent wholeDigits fractionDigits nonempty isExponent =>
      cases whole with
      | nil => exact ⟨'.', fraction ++ exponent, rfl, .inr rfl⟩
      | cons first others =>
          exact ⟨first, others ++ '.' :: (fraction ++ exponent), rfl,
            .inl (wholeDigits first List.mem_cons_self)⟩

theorem IsDecimal.splitSign_append {sign unsigned : List Char} (isSign : sign ∈ signs)
    (isDecimal : IsDecimal unsigned) : (splitSign (sign ++ unsigned)).2 = unsigned := by
  obtain ⟨first, rest, rfl, isDigit | rfl⟩ := isDecimal.exists_cons
  · obtain ⟨notPlus, notMinus⟩ := ne_sign_of_isDigit isDigit
    exact Literal.splitSign_append isSign notPlus notMinus rest
  · exact Literal.splitSign_append isSign (by decide) (by decide) rest

theorem radix?_eq_some_iff {mark : Char} {base : Nat} :
    radix? mark = some base ↔ ∃ radix ∈ radixes, mark ∈ radix.marks ∧ radix.base = base := by
  simp only [radix?, radixes, List.mem_cons, List.not_mem_nil, or_false, exists_eq_or_imp,
    exists_eq_left, Bool.or_eq_true, beq_iff_eq]
  split_ifs with hexadecimal octal binary
  · rcases hexadecimal with rfl | rfl <;> simp
  · rcases octal with rfl | rfl <;> simp
  · rcases binary with rfl | rfl <;> simp
  · simp [hexadecimal, octal, binary]

theorem digitValue?_isSome_iff {radix : Radix} (known : radix ∈ radixes) {char : Char} :
    (digitValue? radix.base char).isSome = true ↔ radix.HasDigit char := by
  simp only [radixes, List.mem_cons, List.not_mem_nil, or_false] at known
  rcases known with rfl | rfl | rfl <;>
    simp only [digitValue?, Radix.HasDigit, List.mem_cons, List.not_mem_nil, or_false,
      exists_eq_or_imp, exists_eq_left, Char.isDigit_iff_toNat, Bool.and_eq_true,
      decide_eq_true_eq, Char.le_def, UInt32.le_iff_toNat_le, Char.toNat_val,
      Char.reduceToNat] <;>
    split_ifs <;>
    simp only [Option.isSome_some, Option.isSome_none, true_iff, Bool.false_eq_true,
      false_iff] <;>
    omega

theorem announced?_isSome_iff {characters : List Char} :
    (announced? characters).isSome = true ↔ IsAnnounced characters := by
  constructor
  · intro found
    unfold announced? at found
    split at found
    · next mark digits =>
      cases isRadix : radix? mark with
      | none => simp [isRadix] at found
      | some base =>
          obtain ⟨radix, known, isMark, rfl⟩ := radix?_eq_some_iff.1 isRadix
          by_cases nonempty : digits = []
          · simp [isRadix, nonempty] at found
          · have values : (digits.mapM (digitValue? radix.base)).isSome = true := by
              cases read : digits.mapM (digitValue? radix.base) with
              | none => simp [isRadix, nonempty, read] at found
              | some values => rfl
            refine .intro known isMark nonempty fun digit member => ?_
            exact (digitValue?_isSome_iff known).1 (mapM_isSome_iff.1 values digit member)
    · cases found
  · intro isAnnounced
    cases isAnnounced with
    | @intro radix mark digits known isMark nonempty areDigits =>
        have isRadix : radix? mark = some radix.base :=
          radix?_eq_some_iff.2 ⟨radix, known, isMark, rfl⟩
        have values : (digits.mapM (digitValue? radix.base)).isSome = true := by
          rw [mapM_isSome_iff]
          intro digit member
          exact (digitValue?_isSome_iff known).2 (areDigits digit member)
        obtain ⟨gathered, read⟩ := Option.isSome_iff_exists.1 values
        simp [announced?, isRadix, nonempty, read]

theorem magnitude?_isSome_iff {unsigned : List Char} :
    (magnitude? unsigned).isSome = true ↔ unsigned = "Infinity".toList ∨ IsDecimal unsigned := by
  rw [magnitude?, ← decimal?_isSome_iff]
  split
  · next isInfinity => simp [isInfinity]
  · next notInfinity => rw [Option.isSome_map, or_iff_right notInfinity]

theorem number?_isSome_iff_parts {word : String} :
    (number? word).isSome = true ↔
      (magnitude? (splitSign word.toList).2).isSome = true ∨
        (announced? word.toList).isSome = true := by
  rw [number?_eq_forms]
  cases magnitude? (splitSign word.toList).2 with
  | some bits => simp
  | none => simp

theorem spelledBits?_isSome_iff {unsigned : List Char} :
    (spelledBits? unsigned).isSome = true ↔
      unsigned.map Char.toLower ∈ ["inf".toList, "infinity".toList, "nan".toList] ∨
        IsDecimal unsigned := by
  simp only [spelledBits?, List.mem_cons, List.not_mem_nil, or_false, Bool.or_eq_true,
    decide_eq_true_eq]
  split_ifs with isInfinity isNaN
  · simp only [Option.isSome_some, true_iff]
    exact .inl (or_assoc.1 (.inl isInfinity))
  · simp [isNaN]
  · rw [Option.isSome_map, decimal?_isSome_iff, ← or_assoc, or_iff_right]
    exact not_or.2 ⟨isInfinity, isNaN⟩

/-- What spells a double is a decimal or one of three words in letters of either case, after at
most one sign. -/
theorem spelled?_isSome_iff {characters : List Char} :
    (spelled? characters).isSome = true ↔
      ∃ sign ∈ signs, ∃ unsigned, characters = sign ++ unsigned ∧
        (unsigned.map Char.toLower ∈ ["inf".toList, "infinity".toList, "nan".toList] ∨
          IsDecimal unsigned) := by
  simp only [spelled?]
  rw [Option.isSome_map, spelledBits?_isSome_iff]
  constructor
  · intro spelled
    obtain ⟨sign, isSign, shape⟩ := exists_sign characters
    exact ⟨sign, isSign, _, shape, spelled⟩
  · rintro ⟨sign, isSign, unsigned, rfl, isWord | isDecimal⟩
    · obtain ⟨first, rest, rfl, isAlpha⟩ := exists_isAlpha_of_spelled isWord
      rw [splitSign_append isSign (ne_of_isAlpha isAlpha rfl) (ne_of_isAlpha isAlpha rfl)]
      exact .inl isWord
    · rw [isDecimal.splitSign_append isSign]
      exact .inr isDecimal

/-- A word is read as a number if and only if the grammar has it. -/
theorem number?_isSome_iff {word : String} :
    (number? word).isSome = true ↔ IsNumeral word.toList := by
  rw [number?_isSome_iff_parts, magnitude?_isSome_iff, announced?_isSome_iff]
  constructor
  · obtain ⟨sign, isSign, shape⟩ := exists_sign word.toList
    rintro ((isInfinity | isDecimal) | isAnnounced)
    · rw [shape, isInfinity]
      exact .infinity isSign
    · rw [shape]
      exact .decimal isSign isDecimal
    · exact .announced isAnnounced
  · generalize word.toList = characters
    intro isNumeral
    cases isNumeral with
    | infinity isSign =>
        exact .inl (.inl (splitSign_append isSign (by decide) (by decide) "nfinity".toList))
    | decimal isSign isDecimal =>
        rw [isDecimal.splitSign_append isSign]
        exact .inl (.inr isDecimal)
    | announced isAnnounced => exact .inr isAnnounced

theorem number?_eq_none_iff {word : String} :
    number? word = none ↔ ¬ IsNumeral word.toList := by
  rw [← number?_isSome_iff, Option.not_isSome_iff_eq_none]

/-- Of the words that begin with a letter after their sign, only one is a number. -/
theorem not_isNumeral_of_isAlpha {sign : List Char} (isSign : sign ∈ signs) {first : Char}
    (isAlpha : first.isAlpha = true) {rest : List Char}
    (notInfinity : first :: rest ≠ "Infinity".toList) :
    ¬ IsNumeral (sign ++ first :: rest) := by
  have unsigned :=
    splitSign_append isSign (ne_of_isAlpha isAlpha rfl) (ne_of_isAlpha isAlpha rfl) rest
  rw [← String.toList_ofList (l := sign ++ first :: rest), ← number?_isSome_iff,
    number?_isSome_iff_parts, String.toList_ofList, unsigned, magnitude?_isSome_iff,
    announced?_isSome_iff]
  rintro ((isInfinity | isDecimal) | isAnnounced)
  · exact notInfinity isInfinity
  · obtain ⟨head, others, shape, isDigit | rfl⟩ := isDecimal.exists_cons
    · cases shape
      rw [not_isDigit_of_isAlpha isAlpha] at isDigit
      cases isDigit
    · cases shape
      exact ne_of_isAlpha isAlpha rfl rfl
  · -- Such a word begins with a zero, which is neither a sign nor a letter.
    generalize shape : sign ++ first :: rest = characters at isAnnounced
    cases isAnnounced with
    | intro known isMark nonempty areDigits =>
        simp only [signs, List.mem_cons, List.not_mem_nil, or_false] at isSign
        rcases isSign with rfl | rfl | rfl
        · cases shape
          exact ne_of_isAlpha isAlpha rfl rfl
        · cases shape
        · cases shape

theorem gatherDigit_le (base bits digit : Nat) :
    gatherDigit base bits digit ≤ Double.infinityBits := by
  simp only [gatherDigit, Double.nearest_le]

theorem gather_le (base : Nat) (digits : List Nat) : gather base digits ≤ Double.infinityBits := by
  cases digits using List.reverseRecOn with
  | nil => exact Nat.zero_le Double.infinityBits
  | append_singleton before last =>
      rw [gather, List.foldl_append, List.foldl_cons, List.foldl_nil]
      exact gatherDigit_le base _ last

theorem le_of_announced?_eq_some {characters : List Char} {bits : Nat}
    (found : announced? characters = some bits) : bits ≤ Double.infinityBits := by
  unfold announced? at found
  split at found
  · obtain ⟨base, -, found⟩ := Option.bind_eq_some_iff.1 found
    split at found
    · cases found
    · obtain ⟨values, -, found⟩ := Option.bind_eq_some_iff.1 found
      cases found
      exact gather_le base values
  · cases found

theorem isNaN_of_number?_eq_some {word : String} {value : Float}
    (found : number? word = some value) : Double.isNaN value = false := by
  rw [number?_eq_forms] at found
  split at found
  · next bits isMagnitude =>
    cases found
    exact Double.isNaN_ofMagnitude _ (le_of_magnitude?_eq_some isMagnitude)
  · obtain ⟨bits, isAnnounced, rfl⟩ := Option.map_eq_some_iff.1 found
    exact Double.isNaN_ofMagnitude _ (le_of_announced?_eq_some isAnnounced)

end Literal

namespace Expr

theorem ofWord_of_number?_eq_some {word : String} {value : Float}
    (found : Literal.number? word = some value) : ofWord word = .number value := by
  rw [ofWord, found]

theorem ofWord_of_number?_eq_none {word : String} (noNumber : Literal.number? word = none) :
    ofWord word =
      if word = "true" then .boolean true
      else if word = "false" then .boolean false
      else if word = "null" then .null
      else .symbol word := by
  rw [ofWord, noNumber]

/-- What a word is read as follows from its spelling. -/
structure ReadBySpelling (word : String) : Prop where
  /-- More words spell a double than are read as numbers. -/
  spelled : (Literal.spelled? word.toList).isSome = true ↔
    ∃ sign ∈ Literal.signs, ∃ unsigned, word.toList = sign ++ unsigned ∧
      (unsigned.map Char.toLower ∈ ["inf".toList, "infinity".toList, "nan".toList] ∨
        Literal.IsDecimal unsigned)
  numeral : (Literal.number? word).isSome = true ↔ Literal.IsNumeral word.toList
  isNumber : ∀ value, Literal.number? word = some value → Double.isNaN value = false
  number : ∀ value, ofWord word = .number value ↔ Literal.number? word = some value
  boolean : ∀ holds, ofWord word = .boolean holds ↔ word = if holds then "true" else "false"
  null : ofWord word = .null ↔ word = "null"
  symbol : ∀ name, ofWord word = .symbol name ↔
    name = word ∧ ¬ Literal.IsNumeral word.toList ∧ word ∉ ["true", "false", "null"]
  /-- Of the spellings of infinity and of what is no number, in letters of either case, one is
  a number. -/
  spelling : ∀ sign ∈ Literal.signs, ∀ letters, word.toList = sign ++ letters →
    letters.map Char.toLower ∈ ["inf".toList, "infinity".toList, "nan".toList] →
      ((Literal.number? word).isSome = true ↔ letters = "Infinity".toList)

/-- Words are read as numbers if they are number literals, as truth values or null if they are
one of three words, and as the symbols that they spell otherwise. -/
theorem readBySpelling (word : String) : ReadBySpelling word where
  spelled := Literal.spelled?_isSome_iff
  numeral := Literal.number?_isSome_iff
  isNumber := fun _ => Literal.isNaN_of_number?_eq_some
  number := by
    intro value
    cases found : Literal.number? word with
    | some other => simp [ofWord_of_number?_eq_some found]
    | none =>
        rw [ofWord_of_number?_eq_none found]
        split_ifs <;> simp
  boolean := by
    intro holds
    cases found : Literal.number? word with
    | some other =>
        rw [ofWord_of_number?_eq_some found]
        simp only [reduceCtorEq, false_iff]
        rintro rfl
        cases holds <;> cases found
    | none =>
        rw [ofWord_of_number?_eq_none found]
        split_ifs <;> cases holds <;> simp_all
  null := by
    cases found : Literal.number? word with
    | some other =>
        rw [ofWord_of_number?_eq_some found]
        simp only [reduceCtorEq, false_iff]
        rintro rfl
        cases found
    | none =>
        rw [ofWord_of_number?_eq_none found]
        split_ifs <;> simp_all
  symbol := by
    intro name
    rw [← Literal.number?_eq_none_iff]
    cases found : Literal.number? word with
    | some other => simp [ofWord_of_number?_eq_some found]
    | none =>
        rw [ofWord_of_number?_eq_none found]
        split_ifs <;> simp_all [eq_comm]
  spelling := by
    intro sign isSign letters shape spelled
    rw [Literal.number?_isSome_iff, shape]
    constructor
    · intro isNumeral
      by_contra notInfinity
      obtain ⟨first, rest, rfl, isAlpha⟩ := Literal.exists_isAlpha_of_spelled spelled
      exact Literal.not_isNumeral_of_isAlpha isSign isAlpha notInfinity isNumeral
    · rintro rfl
      exact .infinity isSign

/-- A point may end the digits or begin them, but not stand alone.  An announced radix takes no
sign and no digits outside it. -/
example :
    ["-5.e+3", ".5", ".", "1e+", "0XfF", "+0XfF", "0b102", "-Infinity", "INFINITY"].map
        (fun word => (Literal.number? word).isSome) =
      [true, true, false, false, true, false, false, true, false] := by
  decide +kernel

end Expr

end MiniLisp
