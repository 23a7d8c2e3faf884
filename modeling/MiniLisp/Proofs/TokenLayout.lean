import Mathlib.Data.List.Chain
import MiniLisp.Proofs.TokenSpelling

/-!
# The layout of a text in tokens

A text with some tokens is blank characters, then a token, then blank characters, and so
on, where two words in a row have a blank character between them.  Every text can be laid
out so, and only with the tokens that `tokenize` gives: a word in a layout ends where the
text ends, where a blank character follows, or where the next token is a parenthesis, so
at each place there is only one token to take.

It follows that tokens keep all characters but the blank ones, and that a word among them
is a longest run: it stands between the ends of the text or delimiters.
-/

namespace MiniLisp

def IsGap (characters : List Char) : Prop :=
  ∀ char ∈ characters, isBlank char = true

/-- A token and the blank characters after it. -/
structure Piece where
  token : String
  gap : List Char

namespace Piece

def characters (piece : Piece) : List Char :=
  piece.token.toList ++ piece.gap

structure Valid (piece : Piece) : Prop where
  token : IsToken piece.token
  gap : IsGap piece.gap

/-- If two pieces in a row are words, there is a blank character between them. -/
def Apart (piece next : Piece) : Prop :=
  IsWord piece.token.toList → IsWord next.token.toList → piece.gap ≠ []

end Piece

/-- The characters of a text as blank ones and then tokens, each with the blank characters
after it. -/
structure TokenLayout where
  lead : List Char
  pieces : List Piece

namespace TokenLayout

def characters (layout : TokenLayout) : List Char :=
  layout.lead ++ layout.pieces.flatMap Piece.characters

def tokens (layout : TokenLayout) : List String :=
  layout.pieces.map Piece.token

structure Valid (layout : TokenLayout) : Prop where
  lead : IsGap layout.lead
  pieces : ∀ piece ∈ layout.pieces, piece.Valid
  apart : layout.pieces.IsChain Piece.Apart

end TokenLayout

theorem isDelimiter_of_isBlank {char : Char} (blank : isBlank char = true) :
    isDelimiter char = true := by
  rw [isDelimiter, blank, Bool.true_or]

theorem IsToken.ne_empty {token : String} (isToken : IsToken token) : token ≠ "" := by
  rintro rfl
  rcases isToken with opens | closes | isWord
  · exact absurd opens (by decide)
  · exact absurd closes (by decide)
  · exact isWord.nonempty rfl

theorem IsToken.eq_parenthesis {token : String} (isToken : IsToken token)
    (noWord : ¬ IsWord token.toList) :
    ∃ char, isParenthesis char = true ∧ token = String.singleton char := by
  rcases isToken with rfl | rfl | isWord
  · exact ⟨'(', rfl, rfl⟩
  · exact ⟨')', rfl, rfl⟩
  · exact absurd isWord noWord

theorem IsToken.isBlank_eq_false {token : String} (isToken : IsToken token) {char : Char}
    (member : char ∈ token.toList) : isBlank char = false := by
  rcases isToken with rfl | rfl | isWord
  · obtain rfl : char = '(' := by simpa using member
    rfl
  · obtain rfl : char = ')' := by simpa using member
    rfl
  · exact (Bool.or_eq_false_iff.1 (isWord.bare char member)).1

/-- What follows a word in a layout, if anything, begins with a delimiter. -/
theorem head?_isDelimiter_of_apart {piece : Piece} {others : List Piece}
    (valid : ∀ other ∈ piece :: others, other.Valid)
    (apart : (piece :: others).IsChain Piece.Apart) (isWord : IsWord piece.token.toList) :
    (piece.gap ++ others.flatMap Piece.characters).head?.all isDelimiter = true := by
  have isGap := (valid piece List.mem_cons_self).gap
  cases shape : piece.gap with
  | cons char gap =>
      exact isDelimiter_of_isBlank (isGap char (shape ▸ List.mem_cons_self))
  | nil =>
      cases others with
      | nil => rfl
      | cons next others =>
          have held := (List.isChain_cons.1 apart).1 next rfl isWord
          have noWord : ¬ IsWord next.token.toList := fun isNextWord => held isNextWord shape
          obtain ⟨char, isParen, isNext⟩ :=
            (valid next (by simp)).token.eq_parenthesis noWord
          simp [Piece.characters, isNext, isDelimiter, isParen]

theorem getLast?_isDelimiter_of_isGap {gap : List Char} (isGap : IsGap gap) :
    gap.getLast?.all isDelimiter = true := by
  rw [Option.all_eq_true]
  intro char last
  exact isDelimiter_of_isBlank (isGap char (List.mem_of_getLast? last))

/-- What comes before a word in a layout, if anything, ends with a delimiter. -/
theorem getLast?_isDelimiter_of_apart {lead : List Char} {others : List Piece} {piece : Piece}
    (isGap : IsGap lead) (valid : ∀ other ∈ others, other.Valid)
    (apart : (others ++ [piece]).IsChain Piece.Apart) (isWord : IsWord piece.token.toList) :
    (lead ++ others.flatMap Piece.characters).getLast?.all isDelimiter = true := by
  rcases List.eq_nil_or_concat others with rfl | ⟨earlier, last, rfl⟩
  · rw [List.flatMap_nil, List.append_nil]
    exact getLast?_isDelimiter_of_isGap isGap
  have isLast := valid last (by simp)
  have held : last.Apart piece := (List.isChain_append.1 apart).2.2 last (by simp) piece rfl
  rw [List.concat_eq_append, List.flatMap_append, List.flatMap_singleton, Piece.characters,
    ← List.append_assoc, ← List.append_assoc, List.getLast?_append]
  cases shape : last.gap with
  | cons char gap =>
      have ends := getLast?_isDelimiter_of_isGap isLast.gap
      rw [shape] at ends
      cases found : (char :: gap).getLast? with
      | none => simp at found
      | some final => simpa [found] using ends
  | nil =>
      have noWord : ¬ IsWord last.token.toList := fun isLastWord => held isLastWord isWord shape
      obtain ⟨char, isParen, isToken⟩ := isLast.token.eq_parenthesis noWord
      simp [isToken, isDelimiter, isParen]

theorem splitTokens_gap {gap : List Char} (isGap : IsGap gap) (rest : List Char) :
    splitTokens (gap ++ rest) = splitTokens rest := by
  induction gap with
  | nil => rfl
  | cons char gap ih =>
      rw [List.cons_append, splitTokens_blank (isGap char List.mem_cons_self)]
      exact ih fun other member => isGap other (List.mem_cons_of_mem _ member)

theorem splitTokens_token {token : String} (isToken : IsToken token) {rest : List Char}
    (ends : IsWord token.toList → rest.head?.all isDelimiter = true) :
    splitTokens (token.toList ++ rest) = token :: splitTokens rest := by
  by_cases isWord : IsWord token.toList
  · rw [splitTokens_word isWord (ends isWord), String.ofList_toList]
  · obtain ⟨char, isParen, rfl⟩ := isToken.eq_parenthesis isWord
    rw [String.toList_singleton]
    exact splitTokens_parenthesis isParen rest

theorem splitTokens_pieces {pieces : List Piece} (valid : ∀ piece ∈ pieces, piece.Valid)
    (apart : pieces.IsChain Piece.Apart) :
    splitTokens (pieces.flatMap Piece.characters) = pieces.map Piece.token := by
  induction pieces with
  | nil => exact splitTokens_nil
  | cons piece others ih =>
      have validOthers := fun other member => valid other (List.mem_cons_of_mem piece member)
      have isPiece := valid piece List.mem_cons_self
      rw [List.flatMap_cons, Piece.characters, List.append_assoc,
        splitTokens_token isPiece.token (head?_isDelimiter_of_apart valid apart),
        splitTokens_gap isPiece.gap, ih validOthers apart.tail, List.map_cons]

theorem TokenLayout.Valid.splitTokens_eq {layout : TokenLayout} (valid : layout.Valid) :
    splitTokens layout.characters = layout.tokens := by
  rw [characters, splitTokens_gap valid.lead, splitTokens_pieces valid.pieces valid.apart,
    tokens]

theorem exists_gap_of_firstToken {characters rest : List Char} {token : String}
    (found : firstToken characters = some (token, rest)) :
    ∃ gap, IsGap gap ∧ characters = gap ++ (token.toList ++ rest) ∧
      (IsWord token.toList → rest.head?.all isDelimiter = true) := by
  have split : characters =
      characters.takeWhile isBlank ++ characters.dropWhile isBlank :=
    List.takeWhile_append_dropWhile.symm
  refine ⟨characters.takeWhile isBlank, fun char => List.mem_takeWhile_imp, ?_⟩
  unfold firstToken at found
  split at found
  · cases found
  · next first others shape =>
    rw [shape] at split
    split at found
    · next isParen =>
      cases found
      rw [String.toList_singleton]
      refine ⟨split, fun isWord => ?_⟩
      have bare := isWord.bare first List.mem_cons_self
      simp [isDelimiter, isParen] at bare
    · cases found
      refine ⟨?_, fun _ => ?_⟩
      · rw [String.toList_ofList, List.cons_append, List.takeWhile_append_dropWhile]
        exact split
      · rw [Option.all_eq_true]
        intro char isHead
        have ends := List.head?_dropWhile_not (fun char => !isDelimiter char) others
        rw [isHead] at ends
        simpa using ends

theorem isGap_of_firstToken_eq_none {characters : List Char}
    (nothing : firstToken characters = none) : IsGap characters := by
  unfold firstToken at nothing
  split at nothing
  · next blank => exact List.dropWhile_eq_nil_iff.1 blank
  · split at nothing <;> cases nothing

theorem exists_layout (characters : List Char) :
    ∃ layout : TokenLayout, layout.Valid ∧ layout.characters = characters ∧
      layout.tokens = splitTokens characters := by
  fun_induction splitTokens characters with
  | case1 characters nothing =>
      refine ⟨⟨characters, []⟩, ⟨isGap_of_firstToken_eq_none nothing, by simp, .nil⟩, ?_, rfl⟩
      exact List.append_nil characters
  | case2 characters token rest found ih =>
      obtain ⟨gap, isGap, shape, ends⟩ := exists_gap_of_firstToken found
      obtain ⟨⟨lead, pieces⟩, valid, characters_eq, tokens_eq⟩ := ih
      refine ⟨⟨gap, ⟨token, lead⟩ :: pieces⟩, ⟨isGap, ?_, ?_⟩, ?_, ?_⟩
      · rintro piece member
        rcases List.mem_cons.1 member with rfl | further
        · exact ⟨isToken_of_firstToken found, valid.lead⟩
        · exact valid.pieces piece further
      · refine valid.apart.cons ?_
        -- A word that followed at once would have been part of this one.
        rintro next isNext isWord isNextWord rfl
        obtain ⟨others, rfl⟩ : ∃ others, pieces = next :: others := List.head?_eq_some_iff.1 isNext
        have ended := ends isWord
        cases word : next.token.toList with
        | nil => exact isNextWord.nonempty word
        | cons char more =>
            have bare := isNextWord.bare char (word ▸ List.mem_cons_self)
            simp [← characters_eq, TokenLayout.characters, Piece.characters, word, bare] at ended
      · rw [shape, ← characters_eq]
        simp [TokenLayout.characters, Piece.characters]
      · rw [← tokens_eq]
        rfl

theorem filter_gap {gap : List Char} (isGap : IsGap gap) :
    (gap.filter fun char => !isBlank char) = [] := by
  rw [List.filter_eq_nil_iff]
  intro char member
  simp [isGap char member]

theorem filter_pieces {pieces : List Piece} (valid : ∀ piece ∈ pieces, piece.Valid) :
    ((pieces.flatMap Piece.characters).filter fun char => !isBlank char) =
      (pieces.map Piece.token).flatMap String.toList := by
  induction pieces with
  | nil => rfl
  | cons piece others ih =>
      have isPiece := valid piece List.mem_cons_self
      have kept : (piece.token.toList.filter fun char => !isBlank char) = piece.token.toList := by
        rw [List.filter_eq_self]
        intro char member
        rw [isPiece.token.isBlank_eq_false member]
        rfl
      rw [List.flatMap_cons, List.filter_append, Piece.characters, List.filter_append, kept,
        filter_gap isPiece.gap, List.append_nil,
        ih fun other member => valid other (List.mem_cons_of_mem piece member)]
      rfl

/-- A word among the tokens of a layout stands between ends of the text or delimiters, and
the other tokens are those of what stands on either side of it. -/
theorem TokenLayout.Valid.exists_sides {layout : TokenLayout} (valid : layout.Valid)
    {before after : List String} {word : String}
    (shape : layout.tokens = before ++ word :: after) (isWord : IsWord word.toList) :
    ∃ front back, layout.characters = front ++ word.toList ++ back ∧
      splitTokens front = before ∧ splitTokens back = after ∧
      front.getLast?.all isDelimiter = true ∧ back.head?.all isDelimiter = true := by
  obtain ⟨lead, pieces⟩ := layout
  obtain ⟨earlier, rest, rfl, rfl, restShape⟩ := List.map_eq_append_iff.1 shape
  obtain ⟨piece, later, rfl, rfl, rfl⟩ := List.map_eq_cons_iff.1 restShape
  have validEarlier := fun other member => valid.pieces other (List.mem_append_left _ member)
  have validRest := fun other member => valid.pieces other (List.mem_append_right earlier member)
  have validLater := fun other member => validRest other (List.mem_cons_of_mem piece member)
  have apart : (earlier ++ piece :: later).IsChain Piece.Apart := valid.apart
  have apartRest := apart.right_of_append
  have apartEarlier : (earlier ++ [piece]).IsChain Piece.Apart := by
    rw [← List.singleton_append, ← List.append_assoc] at apart
    exact apart.left_of_append
  refine ⟨lead ++ earlier.flatMap Piece.characters,
    piece.gap ++ later.flatMap Piece.characters, ?_, ?_, ?_, ?_, ?_⟩
  · simp [TokenLayout.characters, Piece.characters]
  · rw [splitTokens_gap valid.lead, splitTokens_pieces validEarlier apartEarlier.left_of_append]
  · rw [splitTokens_gap (validRest piece List.mem_cons_self).gap,
      splitTokens_pieces validLater apartRest.tail]
  · exact getLast?_isDelimiter_of_apart valid.lead validEarlier apartEarlier isWord
  · exact head?_isDelimiter_of_apart validRest apartRest isWord

/-- The tokens of a text are those of its layouts, and of no other list of tokens is there a
layout.  So none is empty, together they are the characters that are not blank, and each
word is a longest run: delimiters or the ends of the text are on both sides of it. -/
theorem tokenize_eq_iff_layout (text : String) :
    (∀ tokens, tokenize text = tokens ↔
      ∃ layout : TokenLayout, layout.Valid ∧ layout.characters = text.toList ∧
        layout.tokens = tokens) ∧
      (∀ token ∈ tokenize text, token ≠ "") ∧
      (tokenize text).flatMap String.toList = text.toList.filter (fun char => !isBlank char) ∧
      ∀ before word after, tokenize text = before ++ word :: after → IsWord word.toList →
        ∃ front back, text = front ++ word ++ back ∧
          tokenize front = before ∧ tokenize back = after ∧
          front.toList.getLast?.all isDelimiter = true ∧
          back.toList.head?.all isDelimiter = true := by
  obtain ⟨layout, valid, isText, isTokens⟩ := exists_layout text.toList
  rw [← tokenize_eq_splitTokens] at isTokens
  refine ⟨?_, ?_, ?_, ?_⟩
  · intro tokens
    constructor
    · rintro rfl
      exact ⟨layout, valid, isText, isTokens⟩
    · rintro ⟨other, validOther, isSameText, rfl⟩
      rw [tokenize_eq_splitTokens, ← isSameText, validOther.splitTokens_eq]
  · intro token member
    rw [tokenize_eq_splitTokens] at member
    exact (isToken_of_mem_splitTokens member).ne_empty
  · rw [← isTokens, ← isText, TokenLayout.characters, List.filter_append, filter_gap valid.lead,
      filter_pieces valid.pieces]
    rfl
  · intro before word after shape isWord
    obtain ⟨front, back, split, ofFront, ofBack, ends, starts⟩ :=
      valid.exists_sides (isTokens.trans shape) isWord
    refine ⟨String.ofList front, String.ofList back, ?_, ?_, ?_, ?_, ?_⟩
    · rw [← String.toList_inj, ← isText, split]
      simp
    all_goals simpa only [tokenize_eq_splitTokens, String.toList_ofList]

/-- Of two words that only a parenthesis holds apart, the second is a longest run. -/
theorem tokenize_eq_iff_layout_second_word :
    tokenize " ab(c)\n" = ["ab", "("] ++ "c" :: [")"] ∧ IsWord "c".toList ∧
      ∃ front back, " ab(c)\n" = front ++ "c" ++ back ∧
        tokenize front = ["ab", "("] ∧ tokenize back = [")"] ∧
        front.toList.getLast?.all isDelimiter = true ∧
        back.toList.head?.all isDelimiter = true := by
  have split : tokenize " ab(c)\n" = ["ab", "("] ++ "c" :: [")"] := by decide +kernel
  have isWord : IsWord "c".toList := isWord_of_all rfl rfl
  exact ⟨split, isWord, (tokenize_eq_iff_layout " ab(c)\n").2.2.2 _ _ _ split isWord⟩

end MiniLisp
