import MiniLisp.Proofs.LineStages
import MiniLisp.Proofs.ReadingInParts
import MiniLisp.Proofs.TokenJoins
import MiniLisp.Proofs.WrittenExpressions

/-!
# Texts that go on

What more text can change about reading a text is decided by how reading the text ends.  An
expression that was read stays, unless it is an atom and the characters that follow belong
to it.  A closing parenthesis that matches nothing and a list nested too deep stay errors.
Only a text that ends too early can still become readable, and each such text can: what it
lacks is an atom, if it has no token at all, and the closing parentheses of the lists that
are open.

The last word of a text is not settled while more characters may join it, and it is the only
token of which this is true.
-/

namespace MiniLisp

open Reader

theorem Expr.ofWord_ne_list (word : String) (items : List Expr) :
    Expr.ofWord word ≠ .list items := by
  unfold ofWord
  split
  · exact Expr.noConfusion
  · split_ifs
    all_goals exact Expr.noConfusion

theorem readText_eq_result (text : String) :
    readText text = (reached (splitTokens text.toList)).result := by
  rw [readText_eq_outcome, outcome_fst]

/-- What a reader has settled stays when more characters follow: all of it if they begin with
a delimiter, and otherwise all but an atom. -/
theorem reached_append_of_settled {characters more : List Char} {progress : Progress}
    (ended : reached (splitTokens characters) = progress) (settled : progress.IsSettled)
    (apart : more.head?.all isDelimiter = true ∨ ∀ word, progress ≠ .finished (.ofWord word)) :
    reached (splitTokens (characters ++ more)) = progress := by
  by_cases separate : characters.getLast?.all isDelimiter = true ∨ more.head?.all isDelimiter = true
  · rw [splitTokens_append separate, reached_append, ended, settled.afterAll]
  · rw [not_or, Bool.not_eq_true, Bool.not_eq_true] at separate
    have noAtom := apart.resolve_left (Bool.eq_false_iff.1 separate.2)
    obtain ⟨before, word, beginning, after, isWord, -, tokens, -, joined⟩ :=
      exists_splitTokens_fused separate.1 separate.2
    rw [tokens] at ended
    rw [joined]
    exact reached_of_concat_atom (.ofWord isWord) ended settled noAtom _

theorem readText_append_of_settled {text more : String} {progress : Progress}
    (ended : reached (splitTokens text.toList) = progress) (settled : progress.IsSettled)
    (apart : more.toList.head?.all isDelimiter = true ∨
      ∀ word, progress ≠ .finished (.ofWord word)) :
    readText (text ++ more) = progress.result := by
  rw [readText_eq_result, String.toList_append, reached_append_of_settled ended settled apart]

theorem splitTokens_replicate_close (count : Nat) :
    splitTokens (List.replicate count ')') = List.replicate count ")" := by
  induction count with
  | zero => exact splitTokens_nil
  | succ count ih =>
      rw [List.replicate_succ, List.replicate_succ, splitTokens_parenthesis rfl, ih]
      rfl

/-- An atom and closing parentheses complete a text that ends too early. -/
theorem exists_readText_append_eq_ok {text : String} {opened : List (List Expr)}
    (ended : reached (splitTokens text.toList) = .pending opened) :
    ∃ more expr, readText (text ++ more) = .ok expr := by
  let closing := List.replicate opened.length ')'
  let atom : AtomToken := ⟨"x", by decide, by decide⟩
  obtain ⟨whole, closed⟩ := exists_finished_of_close (.ofWord atom.text) opened
  refine ⟨String.ofList (' ' :: 'x' :: closing), whole, ?_⟩
  have ends : closing.head?.all isDelimiter = true := by
    rw [Option.all_eq_true]
    intro char isHead
    rw [List.eq_of_mem_replicate (List.mem_of_head? isHead)]
    rfl
  have isWord : IsWord ['x'] := isWord_of_all rfl rfl
  have tokens :
      splitTokens (' ' :: 'x' :: closing) = atom.text :: List.replicate opened.length ")" := by
    rw [splitTokens_blank rfl, ← splitTokens_replicate_close]
    exact splitTokens_word isWord ends
  rw [readText_eq_result, String.toList_append, String.toList_ofList, splitTokens_append (.inr rfl),
    tokens, reached_append, ended, Progress.afterAll_cons, Progress.after, feed_atom, closed]
  rfl

/-- A text with an expression that stays what is read: whatever follows a delimiter after it,
and whatever follows at all if it is a list. -/
structure Complete (text : String) (expr : Expr) : Prop where
  read : readText text = .ok expr
  delimited : ∀ delimiter, isDelimiter delimiter = true → ∀ more,
    readText (text ++ String.singleton delimiter ++ more) = .ok expr
  closed : ∀ items, expr = .list items → ∀ more, readText (text ++ more) = .ok expr

theorem Complete.readText_append {text more : String} {expr : Expr}
    (complete : Complete text expr)
    (follows : more.toList.head?.all isDelimiter = true ∨ ∃ items, expr = .list items) :
    readText (text ++ more) = .ok expr := by
  rcases follows with starts | ⟨items, isList⟩
  · cases shape : more.toList with
    | nil =>
        obtain rfl : more = "" := String.toList_eq_nil_iff.1 shape
        rw [String.append_empty]
        exact complete.read
    | cons delimiter rest =>
        have split : more = String.singleton delimiter ++ String.ofList rest := by
          rw [← String.toList_inj, shape]
          simp
        rw [split, ← String.append_assoc]
        exact complete.delimited delimiter (by simpa [shape] using starts) _
  · exact complete.closed items isList more

/-- A text with an error that nothing after it can mend. -/
structure Refused (text : String) (error : ReadError) : Prop where
  read : readText text = .error error
  refusal : error = .unexpectedClose ∨ error = .tooDeep 1024
  always : ∀ more, readText (text ++ more) = .error error

/-- A text that ends too early, and can be completed. -/
structure Incomplete (text : String) : Prop where
  read : readText text = .error .endOfInput
  completed : ∃ more expr, readText (text ++ more) = .ok expr

inductive Standing where
  | complete (expr : Expr)
  | refused (error : ReadError)
  | incomplete

namespace Standing

/-- How a text stands towards what may follow it. -/
def Of (text : String) : Standing → Prop
  | .complete expr => Complete text expr
  | .refused error => Refused text error
  | .incomplete => Incomplete text

def result : Standing → Except ReadError Expr
  | .complete expr => .ok expr
  | .refused error => .error error
  | .incomplete => .error .endOfInput

theorem Of.read {text : String} {standing : Standing} (stands : standing.Of text) :
    readText text = standing.result := by
  cases standing with
  | complete expr => exact Complete.read stands
  | refused error => exact Refused.read stands
  | incomplete => exact Incomplete.read stands

theorem not_refused_endOfInput (text : String) : ¬ Refused text .endOfInput := by
  intro refused
  rcases refused.refusal with same | same
  · cases same
  · cases same

theorem Of.unique {text : String} {standing other : Standing} (first : standing.Of text)
    (second : other.Of text) : standing = other := by
  have same : standing.result = other.result := first.read.symm.trans second.read
  cases standing with
  | complete expr =>
      cases other with
      | complete otherExpr => exact congrArg complete (Except.ok.inj same)
      | refused error => cases same
      | incomplete => cases same
  | refused error =>
      cases other with
      | complete otherExpr => cases same
      | refused otherError => exact congrArg refused (Except.error.inj same)
      | incomplete =>
          cases same
          exact absurd first (not_refused_endOfInput text)
  | incomplete =>
      cases other with
      | complete otherExpr => cases same
      | refused otherError =>
          cases same
          exact absurd second (not_refused_endOfInput text)
      | incomplete => rfl

theorem exists_of (text : String) : ∃ standing : Standing, standing.Of text := by
  have read := readText_eq_result text
  cases ended : reached (splitTokens text.toList) with
  | pending opened =>
      rw [ended] at read
      exact ⟨.incomplete, read, exists_readText_append_eq_ok ended⟩
  | finished expr =>
      rw [ended] at read
      have settled := Progress.IsSettled.finished expr
      refine ⟨.complete expr, read, ?_, ?_⟩
      · intro delimiter isDelimiter more
        rw [String.append_assoc]
        refine readText_append_of_settled ended settled (.inl ?_)
        simpa using isDelimiter
      · rintro items rfl more
        refine readText_append_of_settled ended settled (.inr fun word same => ?_)
        exact Expr.ofWord_ne_list word items (Progress.finished.inj same).symm
  | failed error =>
      rw [ended] at read
      refine ⟨.refused error, read, eq_of_afterAll_eq_failed ended, fun more => ?_⟩
      exact readText_append_of_settled ended (.failed error)
        (.inr fun word => Progress.noConfusion)

end Standing

/-- Every text stands in exactly one of three ways: it has an expression that stays, an error
that stays, or it can be completed.  So what comes after the expression of a line makes no
difference to its value and to the scopes, and among the errors the early end is the one
that more text can mend. -/
theorem existsUnique_standing (text : String) :
    (∃! standing : Standing, standing.Of text) ∧
    (∀ expr, readText text = .ok expr → ∀ more : String,
      (more.toList.head?.all isDelimiter = true ∨ ∃ items, expr = .list items) →
        ∀ scope scopes,
          (evalLine scope (text ++ more) scopes).result = (evalLine scope text scopes).result ∧
          (evalLine scope (text ++ more) scopes).scopes = (evalLine scope text scopes).scopes) ∧
    ∀ error, readText text = .error error →
      (error = .endOfInput ↔ ∃ more expr, readText (text ++ more) = .ok expr) := by
  obtain ⟨standing, stands⟩ := Standing.exists_of text
  refine ⟨⟨standing, stands, fun other otherStands => otherStands.unique stands⟩, ?_, ?_⟩
  · intro expr read more follows scope scopes
    refine evalLine_congr ?_ scope scopes
    have same : standing.result = .ok expr := stands.read.symm.trans read
    cases standing with
    | complete found =>
        cases same
        rw [read]
        exact Complete.readText_append stands follows
    | refused error => cases same
    | incomplete => cases same
  · intro error unread
    have same : standing.result = .error error := stands.read.symm.trans unread
    cases standing with
    | complete expr => cases same
    | refused refusal =>
        cases same
        refine iff_of_false ?_ ?_
        · rintro rfl
          exact Standing.not_refused_endOfInput text stands
        · rintro ⟨more, expr, read⟩
          rw [Refused.always stands more] at read
          cases read
    | incomplete =>
        cases same
        exact iff_of_true rfl (Incomplete.completed stands)

/-- A list is not changed by characters that follow it at once, and a list without its end
can still be completed. -/
theorem existsUnique_standing_list :
    (∃ items, readText "(x)" = .ok (.list items)) ∧
      (∀ scope scopes,
        (evalLine scope ("(x)" ++ "y)") scopes).result = (evalLine scope "(x)" scopes).result ∧
        (evalLine scope ("(x)" ++ "y)") scopes).scopes = (evalLine scope "(x)" scopes).scopes) ∧
      readText "(x" = .error .endOfInput ∧ ∃ more expr, readText ("(x" ++ more) = .ok expr := by
  have list : readText "(x)" = .ok (.list [.symbol "x"]) := by
    have tokens : tokenize "(x)" = ["(", "x", ")"] := by decide +kernel
    rw [← readTokens_tokenize, tokens, readTokens_eq_outcome]
    rfl
  have early : readText "(x" = .error .endOfInput := by
    have tokens : tokenize "(x" = ["(", "x"] := by decide +kernel
    rw [← readTokens_tokenize, tokens, readTokens_eq_outcome]
    rfl
  exact ⟨⟨_, list⟩, (existsUnique_standing "(x)").2.1 _ list "y)" (.inr ⟨_, rfl⟩), early,
    ((existsUnique_standing "(x").2.2 _ early).1 rfl⟩

end MiniLisp
