import MiniLisp.Eval.Basic

/-!
# The forms that evaluation tells apart

Evaluation refuses some forms outright, by the number and the kind of their parts,
and takes the others to be definitions, conditionals or calls.  This file says what
is evaluated in each of these, as one equation a form, which arguments a procedure
refuses, and that every expression is an atom, one of the three, or refused.  What
evaluation does to an expression can then be shown by induction, with a case for each.
That induction is made here once for the properties of evaluations that are kept where
evaluations follow one another.
-/

namespace MiniLisp

open Evaluation

/-- A form that is refused before any part of it is evaluated, with the error. -/
inductive RefusedForm : List Expr → EvalError → Prop where
  | head {items : List Expr}
      (noSymbol : ∀ head operands, items ≠ .symbol head :: operands) :
      RefusedForm items .expectedProcedureName
  | target {target body : Expr} (noSymbol : ∀ name, target ≠ .symbol name) :
      RefusedForm [.symbol "define", target, body] .expectedSymbol
  | definition {operands : List Expr} (count : operands.length ≠ 2) :
      RefusedForm (.symbol "define" :: operands) (.wrongCount "define" 2 operands.length)
  | conditional {operands : List Expr} (count : operands.length ≠ 3) :
      RefusedForm (.symbol "if" :: operands) (.wrongCount "if" 3 operands.length)

theorem eval_refused (scope : ScopeId) {items : List Expr} {error : EvalError}
    (refused : RefusedForm items error) : eval scope (.list items) = fail error := by
  cases refused with
  | head noSymbol =>
      rw [eval]
      exact fun head operands shape => noSymbol head operands shape
  | target noSymbol =>
      rw [eval, if_pos rfl, evalDefine]
      exact fun name shape => noSymbol name shape
  | definition count =>
      rw [eval, if_pos rfl, evalDefine]
      · rintro name body rfl
        exact count rfl
      · rintro target body rfl
        exact count rfl
  | conditional count =>
      rw [eval, if_neg (by decide), if_pos rfl, evalIf]
      rintro condition consequent alternative rfl
      exact count rfl

theorem eval_definition (scope : ScopeId) (name : String) (body : Expr) :
    eval scope (.list [.symbol "define", .symbol name, body]) = (do
      let value ← eval scope body
      define scope name value
      return .null) := by
  rw [eval, if_pos rfl, evalDefine]

/-- What follows a condition: one of two evaluations, if its value is a truth value. -/
def branch (condition : Value) (consequent alternative : Evaluation Value) :
    Evaluation Value :=
  match condition with
  | .boolean true => consequent
  | .boolean false => alternative
  | other => fail (.conditionNotBoolean other.kind)

theorem eval_conditional (scope : ScopeId) (condition consequent alternative : Expr) :
    eval scope (.list [.symbol "if", condition, consequent, alternative]) = (do
      let value ← eval scope condition
      branch value (eval scope consequent) (eval scope alternative)) := by
  rw [eval, if_neg (by decide), if_pos rfl, evalIf]
  refine congrArg (bind (eval scope condition)) (funext fun value => ?_)
  cases value with
  | boolean holds => cases holds <;> rfl
  | _ => rfl

theorem eval_call (scope : ScopeId) {head : String} (operands : List Expr)
    (notDefine : head ≠ "define") (notIf : head ≠ "if") :
    eval scope (.list (.symbol head :: operands)) = (do
      let arguments ← evalAll scope operands
      call scope head arguments) := by
  rw [eval, if_neg notDefine, if_neg notIf]

/-- Why a procedure refuses its arguments: for their number, or for a kind, the left one first. -/
inductive RefusedArguments (builtin : Builtin) : List Value → EvalError → Prop where
  | count {arguments : List Value} (count : arguments.length ≠ 2) :
      RefusedArguments builtin arguments (.wrongCount builtin.symbol 2 arguments.length)
  | left {left right : Value} (notNumber : left.kind ≠ .number) :
      RefusedArguments builtin [left, right] (.argumentNotNumber builtin left.kind)
  | right {first : Float} {right : Value} (notNumber : right.kind ≠ .number) :
      RefusedArguments builtin [.number first, right] (.argumentNotNumber builtin right.kind)

theorem Builtin.operand_of_kind_ne {builtin : Builtin} {value : Value}
    (notNumber : value.kind ≠ .number) :
    builtin.operand value = .error (.argumentNotNumber builtin value.kind) := by
  cases value with
  | number value => exact absurd rfl notNumber
  | _ => rfl

theorem Builtin.apply_eq_error_iff {builtin : Builtin} {arguments : List Value}
    {error : EvalError} :
    builtin.apply arguments = .error error ↔ RefusedArguments builtin arguments error := by
  constructor
  · intro failed
    match arguments, failed with
    | [.number first, .number second], failed => cases failed
    | [.number first, .text _], rfl | [.number first, .boolean _], rfl
    | [.number first, .null], rfl | [.number first, .list _], rfl
    | [.number first, .procedure _], rfl => exact .right (by simp [Value.kind])
    | [.text _, _], rfl | [.boolean _, _], rfl | [.null, _], rfl | [.list _, _], rfl
    | [.procedure _, _], rfl => exact .left (by simp [Value.kind])
    | [], rfl | [_], rfl | _ :: _ :: _ :: _, rfl => exact .count (by simp)
  · intro refused
    cases refused with
    | count count =>
        rw [Builtin.apply]
        rintro left right rfl
        exact count rfl
    | left notNumber =>
        rw [Builtin.apply, operand_of_kind_ne notNumber]
        rfl
    | right notNumber =>
        rw [Builtin.apply, operand_of_kind_ne notNumber]
        rfl

/-- What holds of atoms and of refused forms, and of definitions, conditionals and
calls whenever it holds of their parts, holds of every expression. -/
@[elab_as_elim]
theorem Expr.form_induction {motive : Expr → Prop}
    (number : ∀ value, motive (.number value)) (boolean : ∀ value, motive (.boolean value))
    (null : motive .null) (symbol : ∀ name, motive (.symbol name))
    (refused : ∀ items error, RefusedForm items error → motive (.list items))
    (definition : ∀ name body, motive body →
      motive (.list [.symbol "define", .symbol name, body]))
    (conditional : ∀ condition consequent alternative, motive condition →
      motive consequent → motive alternative →
      motive (.list [.symbol "if", condition, consequent, alternative]))
    (call : ∀ head operands, head ≠ "define" → head ≠ "if" →
      (∀ operand ∈ operands, motive operand) → motive (.list (.symbol head :: operands)))
    (expr : Expr) : motive expr := by
  induction expr using Expr.items_induction with
  | number value => exact number value
  | boolean value => exact boolean value
  | null => exact null
  | symbol name => exact symbol name
  | list items ih =>
      by_cases headed : ∃ head operands, items = .symbol head :: operands
      case neg =>
        exact refused items _ (.head fun head operands shape => headed ⟨head, operands, shape⟩)
      obtain ⟨head, operands, rfl⟩ := headed
      have ihOperands : ∀ operand ∈ operands, motive operand :=
        fun operand member => ih operand (List.mem_cons_of_mem _ member)
      by_cases isDefine : head = "define"
      · subst isDefine
        match operands, ihOperands with
        | [.symbol name, body], ih => exact definition name body (ih body (by simp))
        | [.list _, _], _ | [.number _, _], _ | [.boolean _, _], _ | [.null, _], _ =>
            exact refused _ _ (.target (by simp))
        | [], _ | [_], _ | _ :: _ :: _ :: _, _ => exact refused _ _ (.definition (by simp))
      · by_cases isIf : head = "if"
        · subst isIf
          match operands, ihOperands with
          | [condition, consequent, alternative], ih =>
              exact conditional _ _ _ (ih condition (by simp)) (ih consequent (by simp))
                (ih alternative (by simp))
          | [], _ | [_], _ | [_, _], _ | _ :: _ :: _ :: _ :: _, _ =>
              exact refused _ _ (.conditional (by simp))
        · exact call head operands isDefine isIf ihOperands

/-- A property of evaluations that the parts of evaluating an expression have, and that is kept
where evaluations follow one another. -/
structure Evaluation.Closed (scope : ScopeId) (holds : ∀ {α : Type}, Evaluation α → Prop) :
    Prop where
  pure : ∀ {α : Type} (value : α), holds (pure value : Evaluation α)
  bind : ∀ {α β : Type} {first : Evaluation α} {continuation : α → Evaluation β},
    holds first → (∀ value, holds (continuation value)) → holds (first >>= continuation)
  resolve : ∀ name, holds (resolve scope name)
  define : ∀ name value, holds (define scope name value)
  call : ∀ name arguments, holds (call scope name arguments)
  refused : ∀ {items : List Expr} {error : EvalError}, RefusedForm items error →
    holds (fail error : Evaluation Value)
  notBoolean : ∀ kind, holds (fail (.conditionNotBoolean kind) : Evaluation Value)

namespace Evaluation.Closed

variable {scope : ScopeId} {holds : ∀ {α : Type}, Evaluation α → Prop}

theorem evalAll (closed : Closed scope holds) {exprs : List Expr}
    (each : ∀ expr ∈ exprs, holds (eval scope expr)) : holds (evalAll scope exprs) := by
  induction exprs with
  | nil =>
      rw [MiniLisp.evalAll]
      exact closed.pure _
  | cons expr exprs ih =>
      rw [List.forall_mem_cons] at each
      rw [MiniLisp.evalAll]
      apply closed.bind each.1
      intro value
      apply closed.bind (ih each.2)
      intro values
      exact closed.pure _

/-- Such a property holds of the evaluation of every expression. -/
theorem eval (closed : Closed scope holds) (expr : Expr) : holds (eval scope expr) := by
  induction expr using Expr.form_induction with
  | number value =>
      rw [MiniLisp.eval]
      exact closed.pure _
  | boolean value =>
      rw [MiniLisp.eval]
      exact closed.pure _
  | null =>
      rw [MiniLisp.eval]
      exact closed.pure _
  | symbol name =>
      rw [MiniLisp.eval]
      exact closed.resolve name
  | refused items error refused =>
      rw [eval_refused scope refused]
      exact closed.refused refused
  | definition name body ih =>
      rw [eval_definition]
      apply closed.bind ih
      intro value
      exact closed.bind (closed.define name value) fun _ => closed.pure _
  | conditional condition consequent alternative ihCondition ihConsequent ihAlternative =>
      rw [eval_conditional]
      apply closed.bind ihCondition
      intro value
      cases value with
      | boolean holds =>
          cases holds with
          | true => exact ihConsequent
          | false => exact ihAlternative
      | _ => exact closed.notBoolean _
  | call head operands notDefine notIf ih =>
      rw [eval_call scope operands notDefine notIf]
      exact closed.bind (closed.evalAll ih) fun arguments => closed.call head arguments

end Evaluation.Closed

end MiniLisp
