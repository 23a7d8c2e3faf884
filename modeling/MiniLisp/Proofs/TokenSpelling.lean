import Mathlib.Data.List.TakeWhile
import MiniLisp.Proofs.ReadingOutcome

/-!
# Tokens as a function of the characters

Which tokens a source of characters gives depends only on the characters to come.
This file states the splitting as a recursion over that list, proves that cutting
tokens from a source agrees with it, and derives what it does at the front of a text:
a blank character is passed over, a parenthesis is a token, and so is a word that ends
where the text ends or where a delimiter follows.
-/

universe u

namespace MiniLisp

/-- The first token that characters spell, and the characters after it. -/
def firstToken (characters : List Char) : Option (String × List Char) :=
  match characters.dropWhile isBlank with
  | [] => none
  | first :: rest =>
    if isParenthesis first then some (String.singleton first, rest)
    else
      some (String.ofList (first :: rest.takeWhile fun char => !isDelimiter char),
        rest.dropWhile fun char => !isDelimiter char)

theorem length_lt_of_firstToken {characters rest : List Char} {token : String}
    (found : firstToken characters = some (token, rest)) :
    rest.length < characters.length := by
  have blank := (List.dropWhile_suffix isBlank (l := characters)).length_le
  unfold firstToken at found
  split at found
  · cases found
  · next first others shape =>
    rw [shape, List.length_cons] at blank
    split at found
    · cases found
      exact blank
    · cases found
      have word := (List.dropWhile_suffix (fun char => !isDelimiter char) (l := others)).length_le
      exact Nat.lt_of_le_of_lt word blank

def splitTokens (characters : List Char) : List String :=
  match _ : firstToken characters with
  | none => []
  | some (token, rest) => token :: splitTokens rest
termination_by characters.length
decreasing_by exact length_lt_of_firstToken ‹_›

theorem splitTokens_of_firstToken_eq_none {characters : List Char}
    (nothing : firstToken characters = none) : splitTokens characters = [] := by
  rw [splitTokens]
  split <;> simp_all

theorem splitTokens_of_firstToken_eq_some {characters rest : List Char} {token : String}
    (found : firstToken characters = some (token, rest)) :
    splitTokens characters = token :: splitTokens rest := by
  rw [splitTokens]
  split <;> simp_all

namespace Tokens

variable {σ : Type u} [Source σ Char] {tokens after : Tokens σ}

theorem passed_start (tokens : Tokens σ) : tokens.start.passed = [] :=
  rfl

theorem firstToken_of_next_eq_some {token : String}
    (stepped : tokens.next = (some token, after)) :
    firstToken tokens.characters.remaining = some (token, after.characters.remaining) := by
  unfold next at stepped
  split at stepped
  case h_2 => cases stepped
  case h_1 past ended =>
    cases stepped
    unfold firstToken
    rw [← remaining_start]
    unfold ending at ended
    split at ended
    · next paren cut accepted =>
      cases ended
      obtain ⟨isWanted, toCome, passed⟩ := Cursor.of_acceptAny_eq_some accepted
      have isParen : isParenthesis paren = true := by
        simpa [isParenthesis] using isWanted
      rw [toCome]
      dsimp only
      rw [if_pos isParen, Cursor.cutText, Cursor.cut, passed, passed_start]
      rfl
    · next looked refused =>
      -- No parenthesis is next, so the run up to a delimiter is the token.
      rw [Cursor.eq_look_of_acceptAny refused, Cursor.skipUntil] at ended
      have moved := Cursor.skipWhile_fst (fun char => !isDelimiter char) tokens.start.look
      have isPast : tokens.start.look.passWhile (fun char => !isDelimiter char) = past :=
        congrArg Prod.snd ended
      rw [ended, Cursor.remaining_look] at moved
      cases shape : tokens.start.remaining with
      | nil => simp [shape] at moved
      | cons first others =>
          have bare : isDelimiter first = false := by simpa [shape] using moved
          have notParen : isParenthesis first = false := (Bool.or_eq_false_iff.1 bare).2
          have passed := Cursor.passed_passWhile (fun char => !isDelimiter char)
            tokens.start.look
          have toCome := Cursor.remaining_passWhile (fun char => !isDelimiter char)
            tokens.start.look
          rw [isPast, Cursor.remaining_look, shape] at passed toCome
          rw [List.takeWhile_cons_of_pos (by simp [bare]), Cursor.passed_look, passed_start,
            List.append_nil] at passed
          rw [List.dropWhile_cons_of_pos (by simp [bare])] at toCome
          simp only [notParen, Bool.false_eq_true, if_false, Cursor.cutText, Cursor.cut, passed,
            List.reverse_reverse, Cursor.remaining_drop, toCome]

theorem firstToken_of_next_eq_none (finished : tokens.next = (none, after)) :
    firstToken tokens.characters.remaining = none := by
  unfold next at finished
  split at finished
  case h_1 => cases finished
  case h_2 past ended =>
    have nothing := ending_fst tokens
    rw [ended] at nothing
    unfold firstToken
    rw [← remaining_start]
    split
    · rfl
    · next shape => simp [shape] at nothing

/-- Cutting tokens from a source gives those that the characters to come spell. -/
theorem toList_eq_splitTokens (tokens : Tokens σ) :
    Source.toList tokens = splitTokens tokens.characters.remaining := by
  fun_induction Source.toList tokens with
  | case1 tokens after finished =>
      exact (splitTokens_of_firstToken_eq_none (firstToken_of_next_eq_none finished)).symm
  | case2 tokens token after stepped ih =>
      rw [ih, splitTokens_of_firstToken_eq_some (firstToken_of_next_eq_some stepped)]

end Tokens

theorem remaining_tokenCursor (text : String) :
    (tokenCursor text).remaining = splitTokens text.toList := by
  rw [tokenCursor, Cursor.remaining_ofSource, Tokens.toList_eq_splitTokens,
    Cursor.remaining_ofSource, Source.toList_list]

theorem tokenize_eq_splitTokens (text : String) : tokenize text = splitTokens text.toList := by
  rw [tokenize, Cursor.collect_fst, remaining_tokenCursor]

theorem readText_eq_outcome (text : String) :
    readText text = (Reader.outcome [] (splitTokens text.toList)).1 := by
  rw [readText, (Cursor.read_outcome _).1, remaining_tokenCursor]

/-- Characters of a single token that is no parenthesis. -/
structure IsWord (characters : List Char) : Prop where
  nonempty : characters ≠ []
  bare : ∀ char ∈ characters, isDelimiter char = false

theorem isWord_of_all {characters : List Char} (nonempty : characters.isEmpty = false)
    (bare : (characters.all fun char => !isDelimiter char) = true) : IsWord characters where
  nonempty := by
    rintro rfl
    cases nonempty
  bare := by
    intro char member
    simpa using List.all_eq_true.1 bare char member

@[simp] theorem splitTokens_nil : splitTokens [] = [] :=
  splitTokens_of_firstToken_eq_none rfl

theorem splitTokens_blank {char : Char} (blank : isBlank char = true) (rest : List Char) :
    splitTokens (char :: rest) = splitTokens rest := by
  have same : firstToken (char :: rest) = firstToken rest := by
    rw [firstToken, firstToken, List.dropWhile_cons_of_pos blank]
  cases found : firstToken rest with
  | none =>
      rw [splitTokens_of_firstToken_eq_none found,
        splitTokens_of_firstToken_eq_none (same.trans found)]
  | some token =>
      rw [splitTokens_of_firstToken_eq_some found,
        splitTokens_of_firstToken_eq_some (same.trans found)]

theorem splitTokens_parenthesis {char : Char} (isParen : isParenthesis char = true)
    (rest : List Char) :
    splitTokens (char :: rest) = String.singleton char :: splitTokens rest := by
  refine splitTokens_of_firstToken_eq_some ?_
  have notBlank : isBlank char = false := by
    simp only [isParenthesis, Bool.or_eq_true, beq_iff_eq] at isParen
    rcases isParen with rfl | rfl <;> rfl
  rw [firstToken, List.dropWhile_cons_of_neg (by simp [notBlank])]
  dsimp only
  rw [if_pos isParen]

theorem splitTokens_word {word rest : List Char} (isWord : IsWord word)
    (ends : rest.head?.all isDelimiter = true) :
    splitTokens (word ++ rest) = String.ofList word :: splitTokens rest := by
  refine splitTokens_of_firstToken_eq_some ?_
  have bare : ∀ char ∈ word, (!isDelimiter char) = true := by
    intro char member
    rw [isWord.bare char member]
    rfl
  have taken : (rest.takeWhile fun char => !isDelimiter char) = [] := by
    cases rest with
    | nil => rfl
    | cons char rest => exact List.takeWhile_cons_of_neg (by simpa using ends)
  have dropped : (rest.dropWhile fun char => !isDelimiter char) = rest := by
    cases rest with
    | nil => rfl
    | cons char rest => exact List.dropWhile_cons_of_neg (by simpa using ends)
  cases word with
  | nil => exact absurd rfl isWord.nonempty
  | cons first others =>
      have bareOthers := fun char member => bare char (List.mem_cons_of_mem first member)
      obtain ⟨notBlank, notParen⟩ :=
        Bool.or_eq_false_iff.1 (isWord.bare first List.mem_cons_self)
      rw [firstToken, List.cons_append, List.dropWhile_cons_of_neg (by simp [notBlank])]
      dsimp only
      rw [if_neg (by simp [notParen]), List.takeWhile_append_of_pos bareOthers,
        List.dropWhile_append_of_pos bareOthers, taken, dropped, List.append_nil]

/-- A parenthesis or a word, which is what every token is. -/
def IsToken (token : String) : Prop :=
  token = "(" ∨ token = ")" ∨ IsWord token.toList

theorem isToken_of_firstToken {characters rest : List Char} {token : String}
    (found : firstToken characters = some (token, rest)) : IsToken token := by
  unfold firstToken at found
  split at found
  · cases found
  · next first others shape =>
    have notBlank : isBlank first = false := by
      have head := List.head?_dropWhile_not isBlank characters
      rw [shape] at head
      simpa using head
    split at found
    · next isParen =>
      cases found
      simp only [isParenthesis, Bool.or_eq_true, beq_iff_eq] at isParen
      rcases isParen with rfl | rfl
      · exact .inl rfl
      · exact .inr (.inl rfl)
    · next notParen =>
      cases found
      refine .inr (.inr ⟨by simp, ?_⟩)
      intro char member
      rw [String.toList_ofList] at member
      rcases List.mem_cons.1 member with rfl | inRun
      · exact Bool.or_eq_false_iff.2 ⟨notBlank, Bool.not_eq_true _ ▸ notParen⟩
      · simpa using List.mem_takeWhile_imp inRun

theorem isToken_of_mem_splitTokens {characters : List Char} {token : String}
    (member : token ∈ splitTokens characters) : IsToken token := by
  fun_induction splitTokens characters with
  | case1 => exact absurd member List.not_mem_nil
  | case2 characters first rest found ih =>
      rcases List.mem_cons.1 member with rfl | further
      · exact isToken_of_firstToken found
      · exact ih further

end MiniLisp
