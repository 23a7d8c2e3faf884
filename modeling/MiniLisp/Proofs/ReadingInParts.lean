import MiniLisp.Proofs.TokenTree

/-!
# Reading in parts

Tokens can be given to a reader in parts: where it stands after all of them follows from
where it stands after the first part and from the tokens of the second.  A reader that has
finished or failed stays so.  One that has done neither is only short of closing
parentheses, and a parenthesis is also what makes it finish a list or fail: an atom can
finish nothing but itself.
-/

namespace MiniLisp

namespace Reader

namespace Progress

def after (token : String) : Progress → Progress
  | .pending opened => feed opened token
  | settled => settled

def afterAll (tokens : List String) (progress : Progress) : Progress :=
  tokens.foldl (fun progress token => progress.after token) progress

/-- What reading gives if no more tokens come. -/
def result : Progress → Except ReadError Expr
  | .pending _ => .error .endOfInput
  | .finished expr => .ok expr
  | .failed error => .error error

/-- A reader that has finished or failed, to which more tokens make no difference. -/
inductive IsSettled : Progress → Prop
  | finished (expr : Expr) : IsSettled (.finished expr)
  | failed (error : ReadError) : IsSettled (.failed error)

theorem afterAll_cons (token : String) (tokens : List String) (progress : Progress) :
    progress.afterAll (token :: tokens) = (progress.after token).afterAll tokens :=
  rfl

theorem afterAll_append (tokens more : List String) (progress : Progress) :
    progress.afterAll (tokens ++ more) = (progress.afterAll tokens).afterAll more :=
  List.foldl_append

theorem IsSettled.after {progress : Progress} (settled : progress.IsSettled) (token : String) :
    progress.after token = progress := by
  cases settled with
  | finished expr => rfl
  | failed error => rfl

theorem IsSettled.afterAll {progress : Progress} (settled : progress.IsSettled)
    (tokens : List String) : progress.afterAll tokens = progress := by
  induction tokens with
  | nil => rfl
  | cons token tokens ih => rw [afterAll_cons, settled.after, ih]

/-- The outcome of reading on is what the reader stands at after all the tokens. -/
theorem proceed_fst (tokens : List String) (progress : Progress) :
    (proceed tokens progress).1 = (progress.afterAll tokens).result := by
  induction tokens generalizing progress with
  | nil => cases progress <;> rfl
  | cons token tokens ih =>
      cases progress with
      | pending opened =>
          rw [proceed, outcome_cons, Prod.map_fst, id_eq, ih]
          rfl
      | finished expr =>
          rw [(IsSettled.finished expr).afterAll]
          rfl
      | failed error =>
          rw [(IsSettled.failed error).afterAll]
          rfl

end Progress

/-- Where a reader stands after the first tokens of an expression. -/
def reached (tokens : List String) : Progress :=
  (Progress.pending []).afterAll tokens

theorem outcome_fst (tokens : List String) : (outcome [] tokens).1 = (reached tokens).result :=
  Progress.proceed_fst tokens (.pending [])

theorem reached_append (tokens more : List String) :
    reached (tokens ++ more) = (reached tokens).afterAll more :=
  Progress.afterAll_append tokens more _

theorem eq_of_feed_eq_failed {opened : List (List Expr)} {token : String} {error : ReadError}
    (failed : feed opened token = .failed error) :
    error = .unexpectedClose ∨ error = .tooDeep maxDepth := by
  have placed (expr : Expr) (opened : List (List Expr)) : place expr opened ≠ .failed error := by
    cases opened with
    | nil => exact Progress.noConfusion
    | cons items outer => exact Progress.noConfusion
  unfold feed at failed
  split at failed
  · split at failed
    · cases failed
    · cases failed
      exact .inr rfl
  · split at failed
    · split at failed
      · cases failed
        exact .inl rfl
      · exact absurd failed (placed _ _)
    · exact absurd failed (placed _ _)

/-- Running out of tokens is no failure of the reader itself. -/
theorem eq_of_afterAll_eq_failed {tokens : List String} {opened : List (List Expr)}
    {error : ReadError} (failed : (Progress.pending opened).afterAll tokens = .failed error) :
    error = .unexpectedClose ∨ error = .tooDeep maxDepth := by
  induction tokens generalizing opened with
  | nil => cases failed
  | cons token tokens ih =>
      rw [Progress.afterAll_cons, Progress.after] at failed
      cases fed : feed opened token with
      | pending next =>
          rw [fed] at failed
          exact ih failed
      | finished expr =>
          rw [fed, (Progress.IsSettled.finished expr).afterAll] at failed
          cases failed
      | failed other =>
          rw [fed, (Progress.IsSettled.failed other).afterAll] at failed
          cases failed
          exact eq_of_feed_eq_failed fed

/-- As many closing parentheses as lists are open finish an expression. -/
theorem exists_finished_of_close (expr : Expr) (opened : List (List Expr)) :
    ∃ whole, (place expr opened).afterAll (List.replicate opened.length ")") =
      .finished whole := by
  induction opened generalizing expr with
  | nil => exact ⟨expr, rfl⟩
  | cons items outer ih =>
      obtain ⟨whole, closed⟩ := ih (.list (expr :: items).reverse)
      refine ⟨whole, ?_⟩
      rw [List.length_cons, List.replicate_succ, place, Progress.afterAll_cons, Progress.after,
        feed_close]
      exact closed

/-- An atom settles a reader only if it is the expression. -/
theorem after_atom (progress : Progress) (token : AtomToken) :
    progress.after token.text = progress ∨
      (∃ opened, progress.after token.text = .pending opened) ∨
      progress.after token.text = .finished (.ofWord token.text) := by
  cases progress with
  | pending opened =>
      rw [Progress.after, feed_atom]
      cases opened with
      | nil => exact .inr (.inr rfl)
      | cons items outer => exact .inr (.inl ⟨_, rfl⟩)
  | finished expr => exact .inl rfl
  | failed error => exact .inl rfl

/-- What a reader has settled with an atom for its last token, but is no atom, is settled
before that token, and whatever comes instead of it. -/
theorem reached_of_concat_atom {before : List String} (token : AtomToken) {progress : Progress}
    (ended : reached (before ++ [token.text]) = progress) (settled : progress.IsSettled)
    (noAtom : ∀ word, progress ≠ .finished (.ofWord word)) (instead : List String) :
    reached (before ++ instead) = progress := by
  rw [reached_append] at ended
  have same : reached before = progress := by
    rcases after_atom (reached before) token with still | ⟨opened, pending⟩ | finished
    · exact still.symm.trans ended
    · obtain rfl : progress = .pending opened := ended.symm.trans pending
      cases settled
    · exact absurd (ended.symm.trans finished) (noAtom _)
  rw [reached_append, same, settled.afterAll]

end Reader

end MiniLisp
