import MiniLisp.Console.Session
import MiniLisp.Proofs.TokenJoins

/-!
# Commands as tokens

A session looks for its commands in the characters of a line, without the blank ones around
them, while a line is evaluated by its tokens.  Both see the same: blank characters at the
ends of a line belong to no token, so a line is blank if it has no token, and it is a word by
itself if that word is its only token.
-/

namespace MiniLisp

theorem IsWord.reverse {word : List Char} (isWord : IsWord word) : IsWord word.reverse where
  nonempty := by simpa using isWord.nonempty
  bare := by
    intro char member
    exact isWord.bare char (List.mem_reverse.1 member)

theorem IsGap.reverse {gap : List Char} (isGap : IsGap gap) : IsGap gap.reverse := by
  intro char member
  exact isGap char (List.mem_reverse.1 member)

theorem dropWhile_isBlank_gap {gap : List Char} (isGap : IsGap gap) (rest : List Char) :
    (gap ++ rest).dropWhile isBlank = rest.dropWhile isBlank :=
  List.dropWhile_append_of_pos isGap

theorem dropWhile_isBlank_word {word : List Char} (isWord : IsWord word) (rest : List Char) :
    (word ++ rest).dropWhile isBlank = word ++ rest := by
  cases word with
  | nil => exact absurd rfl isWord.nonempty
  | cons first others =>
      have bare := isWord.bare first List.mem_cons_self
      rw [List.cons_append, List.dropWhile_cons_of_neg]
      simp [(Bool.or_eq_false_iff.1 bare).1]

theorem trimBlank_word {lead word trail : List Char} (isLead : IsGap lead) (isWord : IsWord word)
    (isTrail : IsGap trail) : trimBlank (lead ++ (word ++ trail)) = word := by
  have reversed := dropWhile_isBlank_word isWord.reverse []
  rw [List.append_nil] at reversed
  rw [trimBlank, dropWhile_isBlank_gap isLead, dropWhile_isBlank_word isWord,
    List.reverse_append, dropWhile_isBlank_gap isTrail.reverse, reversed, List.reverse_reverse]

theorem exists_gaps (characters : List Char) :
    ∃ lead trail, IsGap lead ∧ IsGap trail ∧
      characters = lead ++ (trimBlank characters ++ trail) := by
  refine ⟨characters.takeWhile isBlank, (characters.dropWhile isBlank).rtakeWhile isBlank,
    ?_, ?_, ?_⟩
  · intro char member
    exact List.mem_takeWhile_imp member
  · intro char member
    exact List.mem_rtakeWhile_imp member
  · have trimmed : trimBlank characters = (characters.dropWhile isBlank).rdropWhile isBlank := rfl
    rw [trimmed, List.rdropWhile_append_rtakeWhile, List.takeWhile_append_dropWhile]

theorem splitTokens_of_isGap {gap : List Char} (isGap : IsGap gap) : splitTokens gap = [] := by
  have alone := splitTokens_gap isGap []
  rwa [List.append_nil, splitTokens_nil] at alone

/-- Blank characters at the ends of a text belong to no token. -/
theorem splitTokens_trimBlank (characters : List Char) :
    splitTokens (trimBlank characters) = splitTokens characters := by
  obtain ⟨lead, trail, isLead, isTrail, shape⟩ := exists_gaps characters
  have starts : trail.head?.all isDelimiter = true := by
    rw [Option.all_eq_true]
    intro char isHead
    exact isDelimiter_of_isBlank (isTrail char (List.mem_of_head? isHead))
  conv_rhs => rw [shape]
  rw [splitTokens_gap isLead, splitTokens_append (.inr starts), splitTokens_of_isGap isTrail,
    List.append_nil]

theorem trimBlank_eq_nil_iff {characters : List Char} :
    trimBlank characters = [] ↔ splitTokens characters = [] := by
  constructor
  · intro blank
    rw [← splitTokens_trimBlank, blank, splitTokens_nil]
  · intro noTokens
    obtain ⟨⟨lead, pieces⟩, valid, rfl, tokens⟩ := exists_layout characters
    obtain rfl : pieces = [] := List.map_eq_nil_iff.1 (tokens.trans noTokens)
    have dropped := dropWhile_isBlank_gap valid.lead []
    rw [trimBlank, TokenLayout.characters, List.flatMap_nil, dropped]
    rfl

/-- Blank characters are those that have no token among them. -/
theorem splitTokens_eq_nil_iff {characters : List Char} :
    splitTokens characters = [] ↔ IsGap characters := by
  constructor
  · intro noTokens
    obtain ⟨lead, trail, isLead, isTrail, shape⟩ := exists_gaps characters
    rw [trimBlank_eq_nil_iff.2 noTokens, List.nil_append] at shape
    rw [shape]
    exact List.forall_mem_append.2 ⟨isLead, isTrail⟩
  · exact splitTokens_of_isGap

def IsNonblank (line : String) : Prop :=
  ∃ char ∈ line.toList, isBlank char = false

instance : DecidablePred IsNonblank := fun line =>
  List.decidableBEx _ line.toList

theorem isNonblank_iff {line : String} : IsNonblank line ↔ tokenize line ≠ [] := by
  rw [tokenize_eq_splitTokens, Ne, splitTokens_eq_nil_iff, IsGap, IsNonblank]
  simp

theorem IsNonblank.ne_empty {line : String} (nonblank : IsNonblank line) : line ≠ "" := by
  rintro rfl
  obtain ⟨char, member, -⟩ := nonblank
  exact List.not_mem_nil member

/-- A line is a word with blank characters around it if that word is its only token. -/
theorem trimBlank_eq_word_iff {characters word : List Char} (isWord : IsWord word) :
    trimBlank characters = word ↔ splitTokens characters = [String.ofList word] := by
  constructor
  · rintro rfl
    have alone := @splitTokens_word _ [] isWord rfl
    rwa [List.append_nil, splitTokens_nil, splitTokens_trimBlank] at alone
  · intro only
    obtain ⟨⟨lead, pieces⟩, valid, rfl, tokens⟩ := exists_layout characters
    obtain ⟨piece, others, rfl, isToken, noOthers⟩ := List.map_eq_cons_iff.1 (tokens.trans only)
    obtain rfl : others = [] := List.map_eq_nil_iff.1 noOthers
    have isPiece := valid.pieces piece List.mem_cons_self
    have shape : TokenLayout.characters ⟨lead, [piece]⟩ = lead ++ (word ++ piece.gap) := by
      simp [TokenLayout.characters, Piece.characters, isToken]
    rw [shape, trimBlank_word valid.lead isWord isPiece.gap]

/-- The command that the tokens of a line give. -/
def Command.ofTokens (tokens : List String) : Command :=
  if tokens = [] then .nothing
  else if tokens = [":exit"] then .exit
  else if tokens = [":help"] then .help
  else if tokens = [":env"] then .environment
  else .evaluate

theorem Command.ofLine_eq_ofTokens (line : String) :
    Command.ofLine line = Command.ofTokens (tokenize line) := by
  have exitWord : IsWord ":exit".toList := isWord_of_all rfl rfl
  have helpWord : IsWord ":help".toList := isWord_of_all rfl rfl
  have environmentWord : IsWord ":env".toList := isWord_of_all rfl rfl
  have isExit := @trimBlank_eq_word_iff line.toList _ exitWord
  have isHelp := @trimBlank_eq_word_iff line.toList _ helpWord
  have isEnvironment := @trimBlank_eq_word_iff line.toList _ environmentWord
  simp only [String.ofList_toList] at isExit isHelp isEnvironment
  simp only [Command.ofLine, Command.ofTokens, tokenize_eq_splitTokens, List.isEmpty_iff,
    trimBlank_eq_nil_iff, isExit, isHelp, isEnvironment]

end MiniLisp
