import Mathlib.Data.List.DropRight
import MiniLisp.Proofs.TokenLayout

/-!
# Tokens of joined texts

Where one text is put after another, the tokens are those of the first and then those of the
second, unless a word ends the first and another begins the second.  These two, and no
others, become one word.  A space between texts keeps their words apart, and so words, or any
tokens, can be joined by spaces and told again from the joined text.
-/

namespace MiniLisp

/-- Characters with a delimiter on one side of the place where they meet, or with nothing
there, fall into tokens by themselves. -/
theorem splitTokens_append {characters more : List Char}
    (apart : characters.getLast?.all isDelimiter = true ∨ more.head?.all isDelimiter = true) :
    splitTokens (characters ++ more) = splitTokens characters ++ splitTokens more := by
  fun_induction splitTokens characters with
  | case1 characters nothing =>
      exact splitTokens_gap (isGap_of_firstToken_eq_none nothing) more
  | case2 characters token rest found ih =>
      obtain ⟨gap, isGap, rfl, ends⟩ := exists_gap_of_firstToken found
      have isToken := isToken_of_firstToken found
      have apartRest :
          rest.getLast?.all isDelimiter = true ∨ more.head?.all isDelimiter = true := by
        refine apart.imp_left fun last => ?_
        cases rest with
        | nil => rfl
        | cons char others =>
            rw [← List.append_assoc, List.getLast?_append_cons] at last
            exact last
      have endsJoined : IsWord token.toList → (rest ++ more).head?.all isDelimiter = true := by
        intro isWord
        cases rest with
        | cons char others => exact ends isWord
        | nil =>
            -- The word is at the end of the first text, so its last character is no delimiter.
            rcases apart with last | head
            · rw [List.append_nil, List.getLast?_append_of_ne_nil _ isWord.nonempty,
                List.getLast?_eq_some_getLast isWord.nonempty, Option.all_some,
                isWord.bare _ (List.getLast_mem isWord.nonempty)] at last
              cases last
            · exact head
      rw [List.append_assoc, splitTokens_gap isGap, List.append_assoc,
        splitTokens_token isToken endsJoined, ih apartRest, List.cons_append]

theorem exists_word_at_end {characters : List Char}
    (last : characters.getLast?.all isDelimiter = false) :
    ∃ front word, characters = front ++ word ∧ IsWord word ∧
      front.getLast?.all isDelimiter = true := by
  let bare := fun char => !isDelimiter char
  refine ⟨characters.rdropWhile bare, characters.rtakeWhile bare,
    (List.rdropWhile_append_rtakeWhile ..).symm, ⟨?_, ?_⟩, ?_⟩
  · intro nothing
    have nonempty : characters ≠ [] := by
      rintro rfl
      cases last
    rw [List.getLast?_eq_some_getLast nonempty, Option.all_some] at last
    exact List.rtakeWhile_eq_nil_iff.1 nothing nonempty (by simp [bare, last])
  · intro char member
    simpa [bare] using List.mem_rtakeWhile_imp member
  · rw [Option.all_eq_true]
    intro char isLast
    have nonempty : characters.rdropWhile bare ≠ [] := by
      intro nothing
      simp [nothing] at isLast
    have ends := List.rdropWhile_last_not bare characters nonempty
    rw [List.getLast?_eq_some_getLast nonempty, Option.some.injEq] at isLast
    simpa [bare, isLast] using ends

theorem exists_word_at_start {characters : List Char}
    (head : characters.head?.all isDelimiter = false) :
    ∃ word rest, characters = word ++ rest ∧ IsWord word ∧
      rest.head?.all isDelimiter = true := by
  let bare := fun char => !isDelimiter char
  refine ⟨characters.takeWhile bare, characters.dropWhile bare,
    List.takeWhile_append_dropWhile.symm, ⟨?_, ?_⟩, ?_⟩
  · cases characters with
    | nil => cases head
    | cons first others =>
        rw [List.takeWhile_cons_of_pos (by simpa [bare] using head)]
        exact List.cons_ne_nil _ _
  · intro char member
    simpa [bare] using List.mem_takeWhile_imp member
  · rw [Option.all_eq_true]
    intro char isHead
    have ends := List.head?_dropWhile_not bare characters
    rw [isHead] at ends
    simpa [bare] using ends

/-- A word at the end of the first text and one at the beginning of the second become one. -/
theorem exists_splitTokens_fused {characters more : List Char}
    (last : characters.getLast?.all isDelimiter = false)
    (head : more.head?.all isDelimiter = false) :
    ∃ before word beginning after, IsWord word ∧ IsWord beginning ∧
      splitTokens characters = before ++ [String.ofList word] ∧
      splitTokens more = String.ofList beginning :: after ∧
      splitTokens (characters ++ more) = before ++ String.ofList (word ++ beginning) :: after := by
  obtain ⟨front, word, rfl, isWord, frontEnds⟩ := exists_word_at_end last
  obtain ⟨beginning, rest, rfl, isBeginning, restStarts⟩ := exists_word_at_start head
  have isJoined : IsWord (word ++ beginning) := by
    refine ⟨List.append_ne_nil_of_left_ne_nil isWord.nonempty beginning, ?_⟩
    intro char member
    rcases List.mem_append.1 member with inWord | inBeginning
    · exact isWord.bare char inWord
    · exact isBeginning.bare char inBeginning
  have atEnd : splitTokens word = [String.ofList word] := by
    have alone := @splitTokens_word word [] isWord rfl
    rw [List.append_nil, splitTokens_nil] at alone
    exact alone
  refine ⟨splitTokens front, word, beginning, splitTokens rest, isWord, isBeginning, ?_, ?_, ?_⟩
  · rw [splitTokens_append (.inl frontEnds), atEnd]
  · exact splitTokens_word isBeginning restStarts
  · rw [List.append_assoc, ← List.append_assoc word, splitTokens_append (.inl frontEnds),
      splitTokens_word isJoined restStarts]

/-- Words joined by spaces have the tokens of each word, in order. -/
theorem tokenize_intercalate (words : List String) :
    tokenize (" ".intercalate words) = words.flatMap tokenize := by
  induction words with
  | nil => exact (tokenize_eq_splitTokens _).trans splitTokens_nil
  | cons first others ih =>
      cases others with
      | nil => simp
      | cons second later =>
          have isGap : IsGap " ".toList := by simp [IsGap, isBlank_of_isWhitespace]
          rw [List.flatMap_cons, ← ih, String.intercalate_cons_cons]
          simp only [tokenize_eq_splitTokens, String.toList_append, List.append_assoc]
          rw [splitTokens_append (.inr rfl), splitTokens_gap isGap]

theorem tokenize_of_isToken {token : String} (isToken : IsToken token) :
    tokenize token = [token] := by
  have alone := @splitTokens_token token isToken [] fun _ => rfl
  rw [List.append_nil, splitTokens_nil] at alone
  rw [tokenize_eq_splitTokens, alone]

/-- Tokens joined by spaces are got back. -/
theorem tokenize_intercalate_tokens {tokens : List String}
    (areTokens : ∀ token ∈ tokens, IsToken token) :
    tokenize (" ".intercalate tokens) = tokens := by
  rw [tokenize_intercalate]
  induction tokens with
  | nil => rfl
  | cons token others ih =>
      rw [List.forall_mem_cons] at areTokens
      rw [List.flatMap_cons, tokenize_of_isToken areTokens.1, ih areTokens.2,
        List.singleton_append]

/-- Texts that do not meet within a word: where they do, one of them has a delimiter, or it has
nothing at all. -/
def MeetApart (text more : String) : Prop :=
  text.toList.getLast?.all isDelimiter = true ∨ more.toList.head?.all isDelimiter = true

/-- The tokens of two texts, one after the other, are those of each, except that words which
meet become one.  So the tokens of words joined by spaces are those of each word, and tokens
joined by spaces are the tokens of what they make. -/
theorem tokenize_append :
    (∀ text more, MeetApart text more →
      tokenize (text ++ more) = tokenize text ++ tokenize more) ∧
    (∀ text more, ¬ MeetApart text more →
      ∃ before word beginning after, tokenize text = before ++ [word] ∧
        tokenize more = beginning :: after ∧
        tokenize (text ++ more) = before ++ (word ++ beginning) :: after) ∧
    (∀ words, tokenize (" ".intercalate words) = words.flatMap tokenize) ∧
    ∀ tokens, (∀ token ∈ tokens, IsToken token) →
      tokenize (" ".intercalate tokens) = tokens := by
  refine ⟨?_, ?_, tokenize_intercalate, fun _ => tokenize_intercalate_tokens⟩
  · intro text more apart
    simp only [tokenize_eq_splitTokens, String.toList_append]
    exact splitTokens_append apart
  · intro text more together
    rw [MeetApart, not_or, Bool.not_eq_true, Bool.not_eq_true] at together
    obtain ⟨before, word, beginning, after, -, -, ofText, ofMore, ofBoth⟩ :=
      exists_splitTokens_fused together.1 together.2
    refine ⟨before, String.ofList word, String.ofList beginning, after, ?_, ?_, ?_⟩
    · rw [tokenize_eq_splitTokens, ofText]
    · rw [tokenize_eq_splitTokens, ofMore]
    · rw [tokenize_eq_splitTokens, String.toList_append, ofBoth, String.ofList_append]

/-- A wide space keeps words apart and so does a parenthesis, while a cut within a word is
undone. -/
theorem tokenize_append_cuts :
    MeetApart "(a\u2003" "b" ∧ tokenize ("(a\u2003" ++ "b") = ["(", "a"] ++ ["b"] ∧
      MeetApart "a" ")b" ∧ tokenize ("a" ++ ")b") = ["a"] ++ [")", "b"] ∧
      ¬ MeetApart "(de" "fine x" ∧
      (∃ before word beginning after, tokenize "(de" = before ++ [word] ∧
        tokenize "fine x" = beginning :: after ∧
        tokenize ("(de" ++ "fine x") = before ++ (word ++ beginning) :: after) ∧
      (∀ token ∈ ["(", "a", "b", ")"], IsToken token) ∧
      tokenize "( a b )" = ["(", "a", "b", ")"] := by
  have blank : MeetApart "(a\u2003" "b" := .inl (by decide)
  have closing : MeetApart "a" ")b" := .inr (by decide)
  have within : ¬ MeetApart "(de" "fine x" := by
    rintro (last | head)
    · exact absurd last (by decide)
    · exact absurd head (by decide)
  have areTokens : ∀ token ∈ ["(", "a", "b", ")"], IsToken token := by
    simp only [List.forall_mem_cons, List.not_mem_nil, false_implies, implies_true, and_true]
    exact ⟨.inl rfl, .inr (.inr (isWord_of_all rfl rfl)), .inr (.inr (isWord_of_all rfl rfl)),
      .inr (.inl rfl)⟩
  have firstTokens : tokenize "(a\u2003" = ["(", "a"] := by decide +kernel
  have singleToken : tokenize "a" = ["a"] := by decide +kernel
  have lastTokens : tokenize "b" = ["b"] := by decide +kernel
  have closingTokens : tokenize ")b" = [")", "b"] := by decide +kernel
  refine ⟨blank, ?_, closing, ?_, within, tokenize_append.2.1 _ _ within, areTokens,
    tokenize_append.2.2.2 _ areTokens⟩
  · rw [tokenize_append.1 _ _ blank, firstTokens, lastTokens]
  · rw [tokenize_append.1 _ _ closing, singleToken, closingTokens]

end MiniLisp
