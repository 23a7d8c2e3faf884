import MiniLisp.Eval.Call

/-!
# Evaluating expressions

Numbers, truth values and null stand for themselves, and a symbol for what it is
bound to.  A form begins with a symbol.  Two symbols are keywords, whatever they
are bound to:

* `(define name body)` binds the name, in the scope of the evaluation, to the
  value of the body, and has the value null;
* `(if condition consequent alternative)` has the value of the consequent or of
  the alternative, as the condition is true or false, and leaves the other alone.

Any other symbol is called: the operands are evaluated from the left, and only
then is the symbol looked up.
-/

namespace MiniLisp

open Evaluation

mutual

def eval (scope : ScopeId) : Expr → Evaluation Value
  | .number value => pure (.number value)
  | .boolean value => pure (.boolean value)
  | .null => pure .null
  | .symbol name => resolve scope name
  | .list (.symbol head :: operands) =>
      if head = "define" then evalDefine scope operands
      else if head = "if" then evalIf scope operands
      else do
        let arguments ← evalAll scope operands
        call scope head arguments
  | .list _ => fail .expectedProcedureName

def evalDefine (scope : ScopeId) : List Expr → Evaluation Value
  | [.symbol name, body] => do
    let value ← eval scope body
    define scope name value
    return .null
  | [_, _] => fail .expectedSymbol
  | operands => fail (.wrongCount "define" 2 operands.length)

def evalIf (scope : ScopeId) : List Expr → Evaluation Value
  | [condition, consequent, alternative] => do
    match ← eval scope condition with
    | .boolean true => eval scope consequent
    | .boolean false => eval scope alternative
    | other => fail (.conditionNotBoolean other.kind)
  | operands => fail (.wrongCount "if" 3 operands.length)

/-- Evaluate expressions from the left. -/
def evalAll (scope : ScopeId) : List Expr → Evaluation (List Value)
  | [] => pure []
  | expr :: exprs => do
    let value ← eval scope expr
    let values ← evalAll scope exprs
    return value :: values

end

end MiniLisp
