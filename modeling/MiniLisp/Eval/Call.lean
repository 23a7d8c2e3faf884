import MiniLisp.Eval.Outcome

/-!
# Calls

A built-in procedure takes two numbers.  The number of arguments is looked at
first, and then the left and the right one.  Errors name the procedure by its own
symbol, whatever name it was called by.
-/

namespace MiniLisp

/-- The number that an argument of a procedure is. -/
def Builtin.operand (builtin : Builtin) : Value → Except EvalError Float
  | .number value => .ok value
  | other => .error (.argumentNotNumber builtin other.kind)

def Builtin.apply (builtin : Builtin) : List Value → Except EvalError Value
  | [left, right] => do
    let left ← builtin.operand left
    let right ← builtin.operand right
    return .number (builtin.operation left right)
  | arguments => .error (.wrongCount builtin.symbol 2 arguments.length)

namespace Evaluation

/-- Call a procedure, which is told before the arguments are looked at. -/
def apply (builtin : Builtin) (arguments : List Value) : Evaluation Value := do
  tell (.applied builtin arguments)
  ofExcept (builtin.apply arguments)

def call (scope : ScopeId) (name : String) (arguments : List Value) : Evaluation Value := do
  match ← lookup? scope name with
  | some (.procedure builtin) => apply builtin arguments
  | some _ => fail (.notCallable name)
  | none => fail (.undefined name)

def resolve (scope : ScopeId) (name : String) : Evaluation Value := do
  match ← lookup? scope name with
  | some value => return value
  | none => fail (.undefined name)

end Evaluation

end MiniLisp
