import MiniLisp.Proofs.ExpressionLeaves
import MiniLisp.Proofs.TokenSpelling
import MiniLisp.Proofs.TokenTree
import MiniLisp.Proofs.WrittenNumbers

/-!
# Written expressions are read back

The characters of a written expression spell the tokens of a tree of the same shape.
Each atom is written as one word, which a space or a parenthesis ends, and the words
of finite numbers, truth values and null stand for just these.  A symbol is read back
if its name is a word that stands for nothing else, and reading gives no other symbols.
What is lost are numbers that are not finite: their words are symbols.
-/

namespace MiniLisp

theorem isDelimiter_of_isDigit {char : Char} (isDigit : char.isDigit = true) :
    isDelimiter char = false := by
  have bounds : 48 ≤ char.toNat ∧ char.toNat ≤ 57 := Char.isDigit_iff_toNat.1 isDigit
  have apart : ∀ range ∈ blankRanges, range.2 < 48 ∨ 57 < range.1 := by decide
  refine Bool.or_eq_false_iff.2 ⟨?_, ?_⟩
  · rw [isBlank, ← Bool.not_eq_true, isWithin_eq_true_iff]
    rintro ⟨range, member, above, below⟩
    rcases apart range member with lower | higher <;> omega
  · rw [isParenthesis, ← Bool.not_eq_true, Bool.or_eq_true, beq_iff_eq, beq_iff_eq]
    rintro (rfl | rfl) <;> exact absurd isDigit (by decide)

theorem isWord_positional (decimal : Decimal) : IsWord decimal.positional := by
  obtain ⟨first, rest, shape, isDigit, others⟩ := Decimal.exists_positional_cons decimal
  rw [shape]
  refine ⟨List.cons_ne_nil first rest, ?_⟩
  intro char member
  rcases List.mem_cons.1 member with rfl | inRest
  · exact isDelimiter_of_isDigit isDigit
  · rcases others char inRest with isDigit | rfl
    · exact isDelimiter_of_isDigit isDigit
    · rfl

theorem isWord_write (double : Float) : IsWord (NumberLayout.plain.write double) := by
  by_cases finite : Double.isFinite double = true
  · have digits := isWord_positional (Decimal.shortest (Double.magnitudeBits double))
    rw [NumberLayout.write_plain finite]
    cases Double.isNegative double with
    | true =>
        refine ⟨List.cons_ne_nil _ _, ?_⟩
        intro char member
        rcases List.mem_cons.1 member with rfl | inDigits
        · rfl
        · exact digits.bare char inDigits
    | false => exact digits
  · rcases NumberLayout.plain.write_of_not_finite (Bool.eq_false_iff.2 finite) with
      written | written | written
    all_goals
      rw [written]
      exact isWord_of_all rfl rfl

theorem isWord_writeBoolean (value : Bool) : IsWord (writeBoolean value) := by
  cases value with
  | true => exact isWord_of_all rfl rfl
  | false => exact isWord_of_all rfl rfl

/-- A word as a token that is no parenthesis. -/
def AtomToken.ofWord {characters : List Char} (isWord : IsWord characters) : AtomToken where
  text := String.ofList characters
  notOpen := by
    intro same
    have shape : characters = ['('] := by rw [← String.toList_ofList (l := characters), same]; rfl
    have bare := isWord.bare '(' (by simp [shape])
    exact absurd bare (by decide)
  notClose := by
    intro same
    have shape : characters = [')'] := by rw [← String.toList_ofList (l := characters), same]; rfl
    have bare := isWord.bare ')' (by simp [shape])
    exact absurd bare (by decide)

namespace Expr

/-- A name that stands for the symbol of that name. -/
structure IsLexicalName (name : String) : Prop where
  isWord : IsWord name.toList
  isSymbol : Expr.ofWord name = .symbol name

/-- Every symbol in the expression has a name that stands for it. -/
def Lexical (expr : Expr) : Prop :=
  ∀ name ∈ expr.symbols, IsLexicalName name

mutual

/-- What an expression is read back as: numbers that are not finite become symbols. -/
def reread : Expr → Expr
  | .list items => .list (rereadAll items)
  | .number value =>
      if Double.isFinite value then .number value
      else .symbol (String.ofList (NumberLayout.plain.write value))
  | other => other

def rereadAll : List Expr → List Expr
  | [] => []
  | item :: items => reread item :: rereadAll items

end

theorem ofWord_write_of_not_finite {double : Float}
    (infinite : Double.isFinite double = false) :
    ofWord (String.ofList (NumberLayout.plain.write double)) =
      .symbol (String.ofList (NumberLayout.plain.write double)) := by
  rcases NumberLayout.plain.write_of_not_finite infinite with written | written | written
  all_goals
    rw [written]
    rfl

theorem ofWord_write (double : Float) :
    ofWord (String.ofList (NumberLayout.plain.write double)) = (Expr.number double).reread := by
  rw [reread]
  by_cases finite : Double.isFinite double = true
  · rw [if_pos finite, ofWord, Literal.number?_write finite]
  · rw [if_neg finite]
    exact ofWord_write_of_not_finite (Bool.eq_false_iff.2 finite)

/-- The characters of an expression spell the tokens of a tree for what it is read back
as, whenever they stand at the end or before a delimiter. -/
structure SpelledBy (expr : Expr) (tree : TokenTree) : Prop where
  tokens : ∀ rest : List Char, rest.head?.all isDelimiter = true →
    splitTokens (expr.characters ++ rest) = tree.flatten ++ splitTokens rest
  expr_eq : tree.expr = expr.reread
  depth_eq : tree.depth = expr.depth

theorem exists_spelledBy_atom {atom : Expr} (isWord : IsWord atom.characters)
    (stands : ofWord (String.ofList atom.characters) = atom.reread) (flat : atom.depth = 0) :
    ∃ tree, atom.SpelledBy tree := by
  refine ⟨.leaf (.ofWord isWord), ?_, ?_, ?_⟩
  · intro rest ends
    rw [splitTokens_word isWord ends]
    rfl
  · exact stands
  · exact flat.symm

/-- Trees for the items of a list spell what stands between its parentheses. -/
theorem exists_spelledBy_items {items : List Expr}
    (each : ∀ item ∈ items, ∃ tree, item.SpelledBy tree) :
    ∃ trees, (∀ rest, splitTokens (List.intercalate [' '] (charactersOfAll items) ++ ')' :: rest) =
        TokenTree.flattenAll trees ++ splitTokens (')' :: rest)) ∧
      TokenTree.exprs trees = rereadAll items ∧
      TokenTree.depthOfAll trees = depthOfAll items := by
  induction items with
  | nil => exact ⟨[], fun rest => rfl, rfl, rfl⟩
  | cons item items ih =>
      obtain ⟨tree, spelled⟩ := each item List.mem_cons_self
      obtain ⟨trees, tokens, exprs, depths⟩ :=
        ih fun other member => each other (List.mem_cons_of_mem _ member)
      refine ⟨tree :: trees, ?_, ?_, ?_⟩
      · intro rest
        rw [TokenTree.flattenAll, List.append_assoc, ← tokens rest, charactersOfAll]
        -- The closing parenthesis ends the last item, a space any other.
        cases items with
        | nil =>
            rw [charactersOfAll, List.intercalate_singleton, List.intercalate_nil]
            exact spelled.tokens _ rfl
        | cons next items =>
            rw [charactersOfAll, List.intercalate_cons_cons, List.append_assoc, List.append_assoc,
              List.singleton_append, spelled.tokens _ rfl, splitTokens_blank rfl]
      · rw [TokenTree.exprs, rereadAll, spelled.expr_eq, exprs]
      · rw [TokenTree.depthOfAll, depthOfAll, spelled.depth_eq, depths]

theorem exists_spelledBy {expr : Expr} (lexical : expr.Lexical) :
    ∃ tree, expr.SpelledBy tree := by
  induction expr using items_induction with
  | symbol name =>
      have read := lexical name List.mem_cons_self
      refine exists_spelledBy_atom read.isWord ?_ rfl
      rw [characters, String.ofList_toList, read.isSymbol]
      rfl
  | number value => exact exists_spelledBy_atom (isWord_write value) (ofWord_write value) rfl
  | boolean value =>
      refine exists_spelledBy_atom (isWord_writeBoolean value) ?_ rfl
      cases value <;> rfl
  | null => exact exists_spelledBy_atom (isWord_of_all rfl rfl) rfl rfl
  | list items ih =>
      have each := forall_mem_symbols_list.1 lexical
      obtain ⟨trees, tokens, exprs, depths⟩ :=
        exists_spelledBy_items fun item member => ih item member (each item member)
      refine ⟨.list trees, ?_, ?_, ?_⟩
      · intro rest ends
        rw [characters, parenthesize, List.append_assoc, List.cons_append,
          List.singleton_append, splitTokens_parenthesis rfl, tokens,
          splitTokens_parenthesis rfl, TokenTree.flatten, List.cons_append, List.append_assoc]
        rfl
      · rw [TokenTree.expr, reread, exprs]
      · rw [TokenTree.depth, depth, depths]

theorem readText_text_of_depth_le {expr : Expr} (lexical : expr.Lexical)
    (shallow : expr.depth ≤ maxDepth) : readText expr.text = .ok expr.reread := by
  obtain ⟨tree, spelled⟩ := exists_spelledBy lexical
  have tokens := spelled.tokens [] rfl
  have within : ([] : List (List Expr)).length + tree.depth ≤ maxDepth := by
    rw [List.length_nil, Nat.zero_add, spelled.depth_eq]
    exact shallow
  have read := Reader.outcome_flatten tree within []
  rw [List.append_nil] at read
  rw [List.append_nil, splitTokens_nil, List.append_nil] at tokens
  rw [readText_eq_outcome, text, String.toList_ofList, tokens, read, spelled.expr_eq]
  rfl

theorem readText_text_of_lt_depth {expr : Expr} (lexical : expr.Lexical)
    (deep : maxDepth < expr.depth) : readText expr.text = .error (.tooDeep maxDepth) := by
  obtain ⟨tree, spelled⟩ := exists_spelledBy lexical
  have tokens := spelled.tokens [] rfl
  have past : maxDepth < ([] : List (List Expr)).length + tree.depth := by
    rw [List.length_nil, Nat.zero_add, spelled.depth_eq]
    exact deep
  have read := Reader.outcome_flatten_tooDeep tree (Nat.zero_le _) past []
  rw [List.append_nil] at read
  rw [List.append_nil, splitTokens_nil, List.append_nil] at tokens
  rw [readText_eq_outcome, text, String.toList_ofList, tokens, read]

theorem rereadAll_eq_map (items : List Expr) : rereadAll items = items.map reread := by
  induction items with
  | nil => rfl
  | cons item items ih => rw [rereadAll, List.map_cons, ih]

theorem charactersOfAll_eq_map (items : List Expr) :
    charactersOfAll items = items.map characters := by
  induction items with
  | nil => rfl
  | cons item items ih => rw [charactersOfAll, List.map_cons, ih]

/-- What an expression is read back as is written the same. -/
theorem characters_reread (expr : Expr) : expr.reread.characters = expr.characters := by
  induction expr using items_induction with
  | list items ih =>
      have same : (items.map reread).map characters = items.map characters := by
        rw [List.map_map]
        exact List.map_congr_left ih
      rw [reread, characters, characters, rereadAll_eq_map, charactersOfAll_eq_map,
        charactersOfAll_eq_map, same]
  | symbol name => rfl
  | number value =>
      rw [reread]
      split
      · rfl
      · rw [characters, characters, String.toList_ofList]
  | boolean value => rfl
  | null => rfl

/-- An expression is read back as it is if its numbers are finite. -/
theorem reread_eq_self_iff (expr : Expr) :
    expr.reread = expr ↔ ∀ value ∈ expr.numbers, Double.isFinite value = true := by
  induction expr using items_induction with
  | list items ih =>
      have itemwise : items.map reread = items ↔ ∀ item ∈ items, reread item = item := by
        have pointwise := List.map_inj_left (l := items) (f := reread) (g := id)
        rwa [List.map_id] at pointwise
      rw [forall_mem_numbers_list, reread, rereadAll_eq_map, list.injEq, itemwise]
      exact forall₂_congr ih
  | symbol name => simp [reread, numbers]
  | number value =>
      rw [reread, numbers]
      by_cases finite : Double.isFinite value = true
      · simp [finite]
      · simp [finite]
  | boolean value => simp [reread, numbers]
  | null => simp [reread, numbers]

theorem ofWord_eq_symbol_or (word : String) :
    ofWord word = .symbol word ∨ (ofWord word).symbols = [] := by
  unfold ofWord
  split
  · exact .inr rfl
  · split_ifs
    · exact .inr rfl
    · exact .inr rfl
    · exact .inr rfl
    · exact .inl rfl

theorem lexical_ofWord {word : String} (isWord : IsWord word.toList) :
    (ofWord word).Lexical := by
  intro name occurs
  rcases ofWord_eq_symbol_or word with stands | noSymbols
  · rw [stands] at occurs
    rw [List.mem_singleton.1 occurs]
    exact ⟨isWord, stands⟩
  · rw [noSymbols] at occurs
    exact absurd occurs List.not_mem_nil

theorem lexical_of_readText {text : String} {expr : Expr} (read : readText text = .ok expr) :
    expr.Lexical := by
  rw [readText_eq_outcome] at read
  refine Reader.holds_of_outcome (fun items => forall_mem_symbols_list.2) ?_ ?_ read
  · intro token member notOpen notClose
    rcases isToken_of_mem_splitTokens member with opens | closes | isWord
    · exact absurd opens notOpen
    · exact absurd closes notClose
    · exact lexical_ofWord isWord
  · intro items member
    exact absurd member List.not_mem_nil

end Expr

/-- Writing an expression and reading it gives what the expression is read back as, or
fails because of its depth; up to that depth it gives the expression itself exactly if
its numbers are finite, and in any case one that is written the same.  This is about
the expressions whose symbols stand for themselves, and reading gives no others. -/
theorem readText_text :
    (∀ text expr, readText text = .ok expr → expr.Lexical) ∧
    ∀ expr : Expr, expr.Lexical →
      (expr.depth ≤ 1024 → readText expr.text = .ok expr.reread) ∧
      (1024 < expr.depth → readText expr.text = .error (.tooDeep 1024)) ∧
      (expr.depth ≤ 1024 →
        (readText expr.text = .ok expr ↔
          ∀ value ∈ expr.numbers, Double.isFinite value = true)) ∧
      (expr.depth ≤ 1024 → (readText expr.text).map Expr.text = .ok expr.text) := by
  refine ⟨fun text expr read => Expr.lexical_of_readText read, ?_⟩
  intro expr lexical
  refine ⟨Expr.readText_text_of_depth_le lexical, Expr.readText_text_of_lt_depth lexical, ?_, ?_⟩
  · intro shallow
    rw [Expr.readText_text_of_depth_le lexical shallow, ← Expr.reread_eq_self_iff,
      Except.ok.injEq]
  · intro shallow
    rw [Expr.readText_text_of_depth_le lexical shallow]
    exact congrArg Except.ok (congrArg String.ofList (Expr.characters_reread expr))

/-- A list with an infinite number is read back with a symbol in its place. -/
theorem readText_text_infinity :
    let expr : Expr := .list [.symbol "x", .number (Double.ofMagnitude true Double.infinityBits)]
    expr.Lexical ∧ expr.depth ≤ 1024 ∧ readText expr.text = .ok expr.reread ∧
      expr.reread = .list [.symbol "x", .symbol "-inf"] := by
  intro expr
  have lexical : expr.Lexical := by
    intro name occurs
    rw [List.mem_singleton.1 occurs]
    exact ⟨isWord_of_all rfl rfl, rfl⟩
  have shallow : expr.depth ≤ 1024 := by decide
  exact ⟨lexical, shallow, (readText_text.2 expr lexical).1 shallow, rfl⟩

end MiniLisp
