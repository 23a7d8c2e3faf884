import MiniLisp.Interpreter
import MiniLisp.Proofs.TokenSpelling

/-!
# The stages of a line

What comes of a line is what comes of the expression that is read from it, with the stages
told around the events of the expression, or else the error of reading it.  So lines from
which the same is read end alike and leave the same scopes.
-/

namespace MiniLisp

open Evaluation

theorem readTokens_tokenize (text : String) : readTokens (tokenize text) = readText text := by
  rw [readTokens_eq_outcome, tokenize_eq_splitTokens, readText_eq_outcome]

/-- The stage that is told once an expression has a value. -/
def Outcome.lastStage (outcome : Outcome Value) : List Event :=
  match outcome.result with
  | .ok value => [.evaluated value]
  | .error _ => []

/-- The value of an expression is told after what its evaluation tells. -/
theorem eval_then_tell (scope : ScopeId) (expr : Expr) (scopes : Scopes) :
    (eval scope expr >>= fun value => tell (.evaluated value) >>= fun _ => pure value) scopes =
      { eval scope expr scopes with
        events := (eval scope expr scopes).events ++ (eval scope expr scopes).lastStage } := by
  cases ended : eval scope expr scopes with
  | mk result after events =>
      cases result with
      | error error =>
          rw [bind_of_error ended]
          exact congrArg (Outcome.mk _ _) (List.append_nil events).symm
      | ok value =>
          rw [bind_of_ok ended]
          rfl

theorem evalLine_of_read_eq_ok {line : String} {expr : Expr} (read : readText line = .ok expr)
    (scope : ScopeId) (scopes : Scopes) :
    evalLine scope line scopes =
      { eval scope expr scopes with
        events := .tokenized (tokenize line) :: .parsed expr ::
          ((eval scope expr scopes).events ++ (eval scope expr scopes).lastStage) } := by
  rw [← readTokens_tokenize] at read
  have staged : evalLine scope line scopes =
      let ending :=
        (eval scope expr >>= fun value => tell (.evaluated value) >>= fun _ => pure value) scopes
      { ending with events := .tokenized (tokenize line) :: .parsed expr :: ending.events } := by
    unfold evalLine
    rw [read]
    rfl
  rw [staged, eval_then_tell]

theorem evalLine_of_read_eq_error {line : String} {error : ReadError}
    (unreadable : readText line = .error error) (scope : ScopeId) (scopes : Scopes) :
    evalLine scope line scopes =
      { result := .error (.unreadable error), scopes, events := [.tokenized (tokenize line)] } := by
  rw [← readTokens_tokenize] at unreadable
  unfold evalLine
  rw [unreadable]
  rfl

/-- What is read from a line decides how it ends and what it leaves. -/
theorem evalLine_congr {line other : String} (same : readText line = readText other)
    (scope : ScopeId) (scopes : Scopes) :
    (evalLine scope line scopes).result = (evalLine scope other scopes).result ∧
      (evalLine scope line scopes).scopes = (evalLine scope other scopes).scopes := by
  cases read : readText other with
  | error error =>
      rw [evalLine_of_read_eq_error (same.trans read), evalLine_of_read_eq_error read]
      exact ⟨rfl, rfl⟩
  | ok expr =>
      rw [evalLine_of_read_eq_ok (same.trans read), evalLine_of_read_eq_ok read]
      exact ⟨rfl, rfl⟩

/-- Lines with the same tokens end alike and leave the same scopes. -/
theorem evalLine_congr_of_tokenize {line other : String} (same : tokenize line = tokenize other)
    (scope : ScopeId) (scopes : Scopes) :
    (evalLine scope line scopes).result = (evalLine scope other scopes).result ∧
      (evalLine scope line scopes).scopes = (evalLine scope other scopes).scopes := by
  apply evalLine_congr
  rw [← readTokens_tokenize, same, readTokens_tokenize]

end MiniLisp
