import MiniLisp.Cursor.Characters
import MiniLisp.Cursor.Lemmas

/-!
# Tokens

A text falls into tokens: each parenthesis is one by itself, and so is each
longest run of characters that are neither blank nor parentheses.  Blank
characters belong to no token.

Tokens are cut from the characters one at a time, so that whoever reads them
reads no more of the text than the tokens taken so far and what it took to see
their ends.
-/

universe u

namespace MiniLisp

def isParenthesis (char : Char) : Bool :=
  char == '(' || char == ')'

/-- Whether a character ends a run: it is blank or a parenthesis. -/
def isDelimiter (char : Char) : Bool :=
  isBlank char || isParenthesis char

/-- A source of characters, read as a source of tokens. -/
structure Tokens (σ : Type u) where
  characters : Cursor σ Char

namespace Tokens

variable {σ : Type u} [Source σ Char]

/-- The cursor past the blank characters before the next token. -/
def start (tokens : Tokens σ) : Cursor σ Char :=
  tokens.characters.skipBlank.2.drop

/-- The cursor past the next token, which it holds as the items passed: a
parenthesis, or else a run up to a delimiter.  Said before it is whether there is
a token. -/
def ending (tokens : Tokens σ) : Bool × Cursor σ Char :=
  match tokens.start.acceptAny ['(', ')'] with
  | (some _, after) => (true, after)
  | (none, looked) => looked.skipUntil isDelimiter

def next (tokens : Tokens σ) : Option String × Tokens σ :=
  match tokens.ending with
  | (true, after) => (some after.cutText.1, { characters := after.cutText.2 })
  | (false, after) => (none, { characters := after })

theorem remaining_start (tokens : Tokens σ) :
    tokens.start.remaining = tokens.characters.remaining.dropWhile isBlank := by
  simp [start, Cursor.skipBlank, Cursor.skipWhile]

theorem size_ending_lt {tokens : Tokens σ} {after : Cursor σ Char}
    (ended : tokens.ending = (true, after)) : after.size < tokens.characters.size := by
  have started : tokens.start.size ≤ tokens.characters.size :=
    Cursor.size_passWhile_le isBlank tokens.characters
  refine Nat.lt_of_lt_of_le ?_ started
  unfold ending at ended
  split at ended
  · next accepted =>
    cases ended
    exact Cursor.size_acceptAny_lt accepted
  · next refused =>
    have looked := Cursor.size_look_le tokens.start
    rw [← Cursor.eq_look_of_acceptAny refused] at looked
    exact Nat.lt_of_lt_of_le (Cursor.size_skipWhile_lt ended) looked

theorem size_ending_le {tokens : Tokens σ} {after : Cursor σ Char}
    (ended : tokens.ending = (false, after)) : after.size ≤ tokens.characters.size := by
  have started : tokens.start.size ≤ tokens.characters.size :=
    Cursor.size_passWhile_le isBlank tokens.characters
  unfold ending at ended
  split at ended
  · cases ended
  · next looked refused =>
    have skipped := Cursor.size_skipWhile_le (fun char => !isDelimiter char) looked
    have same := Cursor.size_look_le tokens.start
    rw [← Cursor.eq_look_of_acceptAny refused] at same
    change looked.skipWhile _ = _ at ended
    rw [ended] at skipped
    exact Nat.le_trans skipped (Nat.le_trans same started)

theorem ending_fst (tokens : Tokens σ) :
    tokens.ending.1 = !tokens.start.remaining.isEmpty := by
  unfold ending
  split
  · next accepted => simp [(Cursor.of_acceptAny_eq_some accepted).2.1]
  · next looked refused =>
    rw [Cursor.eq_look_of_acceptAny refused, Cursor.skipUntil, Cursor.skipWhile_fst,
      Cursor.remaining_look]
    cases shape : tokens.start.remaining with
    | nil => rfl
    | cons first rest =>
      have isOther := Cursor.of_acceptAny_eq_none refused (by rw [shape, List.head?_cons])
      have notBlank : isBlank first = false := by
        have head := List.head?_dropWhile_not isBlank tokens.characters.remaining
        rw [← remaining_start, shape] at head
        simpa using head
      simp_all [isDelimiter, isParenthesis]

theorem remaining_ending {tokens : Tokens σ} {after : Cursor σ Char}
    (ended : tokens.ending = (false, after)) : after.remaining = [] := by
  have nothing : tokens.start.remaining = [] := by
    have found := ending_fst tokens
    rw [ended] at found
    simpa using found
  unfold ending at ended
  split at ended
  · cases ended
  · next looked refused =>
    have past : (looked.skipUntil isDelimiter).2 = after := by rw [ended]
    rw [← past, Cursor.skipUntil, Cursor.skipWhile, Cursor.remaining_passWhile,
      Cursor.eq_look_of_acceptAny refused, Cursor.remaining_look, nothing]
    rfl

instance : Source (Tokens σ) String where
  next := next
  size := fun tokens => tokens.characters.size
  size_lt_of_next := by
    intro tokens rest token given
    unfold next at given
    split at given
    · next ended =>
      cases given
      have smaller := size_ending_lt ended
      exact smaller
    · cases given
  size_le_of_next := by
    intro tokens rest dry
    unfold next at dry
    split at dry
    · cases dry
    · next ended =>
      cases dry
      exact size_ending_le ended
  next_of_dry := by
    intro tokens rest dry
    unfold next at dry
    split at dry
    · cases dry
    · next after ended =>
      cases dry
      have again := ending_fst { characters := after : Tokens σ }
      rw [remaining_start, remaining_ending ended] at again
      unfold next
      split
      · next found => simp [found] at again
      · rfl

end Tokens

/-- A cursor over the tokens of a text, which reads the text as it goes. -/
def tokenCursor (text : String) : Cursor (Tokens (List Char)) String :=
  .ofSource { characters := .ofSource text.toList }

def tokenize (text : String) : List String :=
  (tokenCursor text).collect.1

end MiniLisp
