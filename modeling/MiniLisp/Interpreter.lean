import MiniLisp.Eval.Basic

/-!
# Evaluating lines

A line goes through three stages: it is split into tokens, the first expression
is read from them, and that expression is evaluated.  Each stage that is got
through is told, and an error in one of them ends the line.  What follows the
first expression has no effect.
-/

namespace MiniLisp

open Evaluation

def evalLine (scope : ScopeId) (line : String) : Evaluation Value := do
  let tokens := tokenize line
  tell (.tokenized tokens)
  let expr ← ofExcept ((readTokens tokens).mapError .unreadable)
  tell (.parsed expr)
  let value ← eval scope expr
  tell (.evaluated value)
  return value

/-- An interpreter: the scopes there are, and the one that lines are evaluated in. -/
structure Interpreter where
  scopes : Scopes
  scope : ScopeId

namespace Interpreter

def startup : Outcome ScopeId :=
  newRoot Scopes.empty

/-- An interpreter that has seen no line.  Its only scope binds the built-in
procedures. -/
def start : Interpreter where
  scopes := startup.scopes
  scope := 0

def outcome (interpreter : Interpreter) (line : String) : Outcome Value :=
  evalLine interpreter.scope line interpreter.scopes

/-- The interpreter that a line with a given outcome leaves. -/
def leftBy (interpreter : Interpreter) (outcome : Outcome Value) : Interpreter :=
  { interpreter with scopes := outcome.scopes }

def names (interpreter : Interpreter) : List String :=
  interpreter.scopes.names interpreter.scope

def outcomes (interpreter : Interpreter) : List String → List (Outcome Value)
  | [] => []
  | line :: lines =>
    let outcome := interpreter.outcome line
    outcome :: (interpreter.leftBy outcome).outcomes lines

end Interpreter

end MiniLisp
