import Mathlib.Data.List.Basic
import MiniLisp.Proofs.ReadNames

/-!
# Why an evaluation fails

An evaluation fails at one place in the expression, and all before that place has come to a
value.  The rules below say at which.  A call fails with the error of its leftmost operand that
fails, whatever the head is bound to; only when every operand has a value is the head looked up,
and only a procedure looks at the number of its arguments, and then at their kinds, the left one
first.  A refused form fails before any part of it is evaluated.

What an error tells is true of the expression and of the scopes that the failure leaves, also
where definitions before the failure have changed what names are bound to.
-/

namespace MiniLisp

namespace Evaluation

variable {α β : Type} {scopes after : Scopes} {error : EvalError}

/-- An evaluation comes to a value, and leaves scopes behind. -/
def Reaches (evaluation : Evaluation α) (scopes : Scopes) (value : α) (after : Scopes) : Prop :=
  (evaluation scopes).result = .ok value ∧ (evaluation scopes).scopes = after

/-- An evaluation fails with an error, and leaves scopes behind all the same. -/
def Fails (evaluation : Evaluation α) (scopes : Scopes) (error : EvalError) (after : Scopes) :
    Prop :=
  (evaluation scopes).result = .error error ∧ (evaluation scopes).scopes = after

theorem reaches_pure_iff {value result : α} :
    (pure value : Evaluation α).Reaches scopes result after ↔ value = result ∧ scopes = after := by
  rw [Reaches, pure_apply, Except.ok.injEq]

theorem not_fails_pure (value : α) : ¬ (pure value : Evaluation α).Fails scopes error after := by
  rintro ⟨ended, -⟩
  cases ended

theorem fails_ofExcept_iff {result : Except EvalError α} :
    (ofExcept result).Fails scopes error after ↔ result = .error error ∧ scopes = after :=
  Iff.rfl

theorem fails_fail_iff {expected : EvalError} :
    (fail expected : Evaluation α).Fails scopes error after ↔
      expected = error ∧ scopes = after := by
  rw [fail, fails_ofExcept_iff, Except.error.injEq]

theorem reaches_bind_iff {first : Evaluation α} {continuation : α → Evaluation β} {result : β} :
    (first >>= continuation).Reaches scopes result after ↔
      ∃ value between, first.Reaches scopes value between ∧
        (continuation value).Reaches between result after := by
  rcases ended : first scopes with ⟨before, between, events⟩
  cases before with
  | error error => simp [Reaches, bind_of_error ended, ended]
  | ok value => simp [Reaches, bind_of_ok ended, ended, and_assoc]

/-- One evaluation after another fails where the first fails, or where the second fails from
what the first leaves. -/
theorem fails_bind_iff {first : Evaluation α} {continuation : α → Evaluation β} :
    (first >>= continuation).Fails scopes error after ↔
      first.Fails scopes error after ∨
        ∃ value between, first.Reaches scopes value between ∧
          (continuation value).Fails between error after := by
  rcases ended : first scopes with ⟨before, between, events⟩
  cases before with
  | error error => simp [Fails, Reaches, bind_of_error ended, ended]
  | ok value => simp [Fails, Reaches, bind_of_ok ended, ended, and_assoc]

theorem fails_lookup?_bind_iff {scope : ScopeId} {name : String}
    {continuation : Option Value → Evaluation β} :
    (lookup? scope name >>= continuation).Fails scopes error after ↔
      (continuation (scopes.lookup? scope name)).Fails scopes error after := by
  have ended : lookup? scope name scopes =
      { result := .ok (scopes.lookup? scope name), scopes, events := [] } :=
    rfl
  simp [Fails, bind_of_ok ended]

theorem fails_resolve_iff {scope : ScopeId} {name : String} :
    (resolve scope name).Fails scopes error after ↔
      scopes.lookup? scope name = none ∧ .undefined name = error ∧ scopes = after := by
  rw [resolve, fails_lookup?_bind_iff]
  cases scopes.lookup? scope name with
  | none => simp [fails_fail_iff]
  | some value => simp [not_fails_pure]

end Evaluation

/-- How the call of what a name is bound to fails, once the arguments are there. -/
inductive CallFailure (found : Option Value) (name : String) (arguments : List Value) :
    EvalError → Prop where
  | undefined (unbound : found = none) : CallFailure found name arguments (.undefined name)
  | notCallable {value : Value} (bound : found = some value) (other : value.kind ≠ .procedure) :
      CallFailure found name arguments (.notCallable name)
  | arguments {builtin : Builtin} {error : EvalError} (bound : found = some (.procedure builtin))
      (refused : RefusedArguments builtin arguments error) :
      CallFailure found name arguments error

theorem Evaluation.fails_call_iff {scope : ScopeId} {name : String} {arguments : List Value}
    {scopes after : Scopes} {error : EvalError} :
    (call scope name arguments).Fails scopes error after ↔
      CallFailure (scopes.lookup? scope name) name arguments error ∧ scopes = after := by
  rw [call, fails_lookup?_bind_iff]
  generalize scopes.lookup? scope name = found
  constructor
  · intro failed
    cases found with
    | none =>
        obtain ⟨rfl, left⟩ := fails_fail_iff.1 failed
        exact ⟨.undefined rfl, left⟩
    | some value =>
        cases value with
        | procedure builtin =>
            obtain ⟨failed, left⟩ : builtin.apply arguments = .error error ∧ scopes = after :=
              failed
            exact ⟨.arguments rfl (Builtin.apply_eq_error_iff.1 failed), left⟩
        | _ =>
            obtain ⟨rfl, left⟩ := fails_fail_iff.1 failed
            exact ⟨.notCallable rfl (by simp [Value.kind]), left⟩
  · rintro ⟨failure, left⟩
    cases failure with
    | undefined unbound =>
        subst unbound
        exact fails_fail_iff.2 ⟨rfl, left⟩
    | @notCallable value bound other =>
        subst bound
        cases value with
        | procedure builtin => exact absurd rfl other
        | _ => exact fails_fail_iff.2 ⟨rfl, left⟩
    | @arguments builtin error bound refused =>
        subst bound
        exact ⟨(Builtin.apply_eq_error_iff.2 refused : builtin.apply arguments = _), left⟩

open Evaluation

/-- The rules by which the evaluation of an expression fails, from the scopes before it to those
that it leaves. -/
inductive Failure (scope : ScopeId) : Scopes → Expr → EvalError → Scopes → Prop where
  | undefined {scopes : Scopes} {name : String} (unbound : scopes.lookup? scope name = none) :
      Failure scope scopes (.symbol name) (.undefined name) scopes
  | refused {scopes : Scopes} {items : List Expr} {error : EvalError}
      (refused : RefusedForm items error) :
      Failure scope scopes (.list items) error scopes
  | body {scopes after : Scopes} {name : String} {body : Expr} {error : EvalError}
      (failed : Failure scope scopes body error after) :
      Failure scope scopes (.list [.symbol "define", .symbol name, body]) error after
  | condition {scopes after : Scopes} {condition consequent alternative : Expr}
      {error : EvalError} (failed : Failure scope scopes condition error after) :
      Failure scope scopes (.list [.symbol "if", condition, consequent, alternative]) error after
  | notBoolean {scopes after : Scopes} {condition consequent alternative : Expr} {value : Value}
      (ended : (eval scope condition).Reaches scopes value after)
      (notBoolean : value.kind ≠ .boolean) :
      Failure scope scopes (.list [.symbol "if", condition, consequent, alternative])
        (.conditionNotBoolean value.kind) after
  | consequent {scopes between after : Scopes} {condition consequent alternative : Expr}
      {error : EvalError} (holds : (eval scope condition).Reaches scopes (.boolean true) between)
      (failed : Failure scope between consequent error after) :
      Failure scope scopes (.list [.symbol "if", condition, consequent, alternative]) error after
  | alternative {scopes between after : Scopes} {condition consequent alternative : Expr}
      {error : EvalError}
      (holdsNot : (eval scope condition).Reaches scopes (.boolean false) between)
      (failed : Failure scope between alternative error after) :
      Failure scope scopes (.list [.symbol "if", condition, consequent, alternative]) error after
  | operand {scopes between after : Scopes} {head : String} {operand : Expr}
      {earlier later : List Expr} {values : List Value} {error : EvalError}
      (notDefine : head ≠ "define") (notIf : head ≠ "if")
      (reached : (evalAll scope earlier).Reaches scopes values between)
      (failed : Failure scope between operand error after) :
      Failure scope scopes (.list (.symbol head :: (earlier ++ operand :: later))) error after
  | call {scopes after : Scopes} {head : String} {operands : List Expr}
      {arguments : List Value} {error : EvalError}
      (notDefine : head ≠ "define") (notIf : head ≠ "if")
      (reached : (evalAll scope operands).Reaches scopes arguments after)
      (failed : CallFailure (after.lookup? scope head) head arguments error) :
      Failure scope scopes (.list (.symbol head :: operands)) error after

section Evaluating

variable {scope : ScopeId} {scopes between after : Scopes} {expr : Expr} {exprs : List Expr}
  {values : List Value} {error : EvalError}

theorem reaches_evalAll_nil_iff :
    (evalAll scope []).Reaches scopes values after ↔ [] = values ∧ scopes = after := by
  rw [evalAll, reaches_pure_iff]

theorem reaches_evalAll_cons_iff :
    (evalAll scope (expr :: exprs)).Reaches scopes values after ↔
      ∃ value between, (eval scope expr).Reaches scopes value between ∧
        ∃ others, (evalAll scope exprs).Reaches between others after ∧
          value :: others = values := by
  simp only [evalAll, reaches_bind_iff, reaches_pure_iff]
  constructor
  · rintro ⟨value, between, first, others, _, reached, whole, rfl⟩
    exact ⟨value, between, first, others, reached, whole⟩
  · rintro ⟨value, between, first, others, reached, whole⟩
    exact ⟨value, between, first, others, after, reached, whole, rfl⟩

theorem length_of_reaches_evalAll (reached : (evalAll scope exprs).Reaches scopes values after) :
    values.length = exprs.length := by
  induction exprs generalizing scopes values with
  | nil =>
      obtain ⟨rfl, -⟩ := reaches_evalAll_nil_iff.1 reached
      rfl
  | cons expr exprs ih =>
      obtain ⟨value, between, -, others, reachedOthers, rfl⟩ :=
        reaches_evalAll_cons_iff.1 reached
      rw [List.length_cons, List.length_cons, ih reachedOthers]

/-- Expressions evaluated one after another fail at the leftmost that fails. -/
theorem fails_evalAll_iff :
    (evalAll scope exprs).Fails scopes error after ↔
      ∃ earlier expr later values between, exprs = earlier ++ expr :: later ∧
        (evalAll scope earlier).Reaches scopes values between ∧
        (eval scope expr).Fails between error after := by
  induction exprs generalizing scopes with
  | nil =>
      constructor
      · intro failed
        rw [evalAll] at failed
        exact absurd failed (not_fails_pure _)
      · rintro ⟨earlier, expr, later, values, between, whole, -⟩
        simp at whole
  | cons first others ih =>
      -- Either the first expression fails, or it has a value and one of the others fails.
      rw [evalAll, fails_bind_iff]
      constructor
      · rintro (failed | ⟨value, middle, reached, failed⟩)
        · exact ⟨[], first, others, [], scopes, rfl, reaches_evalAll_nil_iff.2 ⟨rfl, rfl⟩, failed⟩
        · rcases fails_bind_iff.1 failed with failed | ⟨values, last, -, failed⟩
          · obtain ⟨earlier, expr, later, values, between, rfl, before, failed⟩ := ih.1 failed
            refine ⟨first :: earlier, expr, later, value :: values, between, rfl, ?_, failed⟩
            exact reaches_evalAll_cons_iff.2 ⟨value, middle, reached, values, before, rfl⟩
          · exact absurd failed (not_fails_pure _)
      · rintro ⟨earlier, expr, later, values, between, whole, before, failed⟩
        cases earlier with
        | nil =>
            obtain ⟨rfl, rfl⟩ := List.cons.inj whole
            obtain ⟨-, rfl⟩ := reaches_evalAll_nil_iff.1 before
            exact .inl failed
        | cons first earlier =>
            obtain ⟨rfl, rfl⟩ := List.cons.inj whole
            obtain ⟨value, middle, reached, values, before, -⟩ :=
              reaches_evalAll_cons_iff.1 before
            refine .inr ⟨value, middle, reached, fails_bind_iff.2 (.inl ?_)⟩
            exact ih.2 ⟨earlier, expr, later, values, between, rfl, before, failed⟩

theorem failure_of_fails_branch {condition consequent alternative : Expr} {value : Value}
    (ended : (eval scope condition).Reaches scopes value between)
    (failed : (branch value (eval scope consequent) (eval scope alternative)).Fails
      between error after)
    (ofConsequent : (eval scope consequent).Fails between error after →
      Failure scope between consequent error after)
    (ofAlternative : (eval scope alternative).Fails between error after →
      Failure scope between alternative error after) :
    Failure scope scopes (.list [.symbol "if", condition, consequent, alternative]) error
      after := by
  match value with
  | .boolean true => exact .consequent ended (ofConsequent failed)
  | .boolean false => exact .alternative ended (ofAlternative failed)
  | .number _ | .text _ | .null | .list _ | .procedure _ =>
      obtain ⟨rfl, rfl⟩ := fails_fail_iff.1 failed
      exact .notBoolean ended (by simp [Value.kind])

theorem failure_of_fails (failed : (eval scope expr).Fails scopes error after) :
    Failure scope scopes expr error after := by
  induction expr using Expr.form_induction generalizing scopes error after with
  | number value =>
      rw [eval] at failed
      exact absurd failed (not_fails_pure _)
  | boolean value =>
      rw [eval] at failed
      exact absurd failed (not_fails_pure _)
  | null =>
      rw [eval] at failed
      exact absurd failed (not_fails_pure _)
  | symbol name =>
      rw [eval] at failed
      obtain ⟨unbound, rfl, rfl⟩ := fails_resolve_iff.1 failed
      exact .undefined unbound
  | refused items expected refused =>
      rw [eval_refused scope refused] at failed
      obtain ⟨rfl, rfl⟩ := fails_fail_iff.1 failed
      exact .refused refused
  | definition name body ih =>
      rw [eval_definition] at failed
      rcases fails_bind_iff.1 failed with failed | ⟨value, between, -, failed⟩
      · exact .body (ih failed)
      · rcases fails_bind_iff.1 failed with ⟨ended, -⟩ | ⟨_, _, -, failed⟩
        · cases ended
        · exact absurd failed (not_fails_pure _)
  | conditional condition consequent alternative ihCondition ihConsequent ihAlternative =>
      rw [eval_conditional] at failed
      rcases fails_bind_iff.1 failed with failed | ⟨value, between, ended, failed⟩
      · exact .condition (ihCondition failed)
      · exact failure_of_fails_branch ended failed ihConsequent ihAlternative
  | call head operands notDefine notIf ih =>
      rw [eval_call scope operands notDefine notIf] at failed
      rcases fails_bind_iff.1 failed with failed | ⟨arguments, between, reached, failed⟩
      · obtain ⟨earlier, operand, later, values, between, rfl, reached, failed⟩ :=
          fails_evalAll_iff.1 failed
        exact .operand notDefine notIf reached (ih operand (by simp) failed)
      · obtain ⟨failure, rfl⟩ := fails_call_iff.1 failed
        exact .call notDefine notIf reached failure

theorem fails_of_failure (failure : Failure scope scopes expr error after) :
    (eval scope expr).Fails scopes error after := by
  induction failure with
  | undefined unbound =>
      rw [eval]
      exact fails_resolve_iff.2 ⟨unbound, rfl, rfl⟩
  | refused refused =>
      rw [eval_refused scope refused]
      exact fails_fail_iff.2 ⟨rfl, rfl⟩
  | body failed ih =>
      rw [eval_definition]
      exact fails_bind_iff.2 (.inl ih)
  | condition failed ih =>
      rw [eval_conditional]
      exact fails_bind_iff.2 (.inl ih)
  | @notBoolean scopes after condition consequent alternative value ended notBoolean =>
      rw [eval_conditional]
      refine fails_bind_iff.2 (.inr ⟨value, after, ended, ?_⟩)
      cases value with
      | boolean value => exact absurd rfl notBoolean
      | _ => exact fails_fail_iff.2 ⟨rfl, rfl⟩
  | consequent holds failed ih =>
      rw [eval_conditional]
      exact fails_bind_iff.2 (.inr ⟨_, _, holds, ih⟩)
  | alternative holdsNot failed ih =>
      rw [eval_conditional]
      exact fails_bind_iff.2 (.inr ⟨_, _, holdsNot, ih⟩)
  | operand notDefine notIf reached failed ih =>
      rw [eval_call scope _ notDefine notIf]
      exact fails_bind_iff.2 (.inl (fails_evalAll_iff.2 ⟨_, _, _, _, _, rfl, reached, ih⟩))
  | call notDefine notIf reached failed =>
      rw [eval_call scope _ notDefine notIf]
      exact fails_bind_iff.2 (.inr ⟨_, _, reached, fails_call_iff.2 ⟨failed, rfl⟩⟩)

/-- Evaluation fails by the rules, and by no others. -/
theorem fails_eval_iff :
    (eval scope expr).Fails scopes error after ↔ Failure scope scopes expr error after :=
  ⟨failure_of_fails, fails_of_failure⟩

end Evaluating

/-- A head that is no keyword and resolves to a procedure. -/
structure Calls (scopes : Scopes) (scope : ScopeId) (head : String) (builtin : Builtin) :
    Prop where
  notDefine : head ≠ "define"
  notIf : head ≠ "if"
  bound : scopes.lookup? scope head = some (.procedure builtin)

/-- The name that a form with a given head has in errors, and the number of operands that it
has to have.  A procedure has the name that it is bound to at the start, also when called by
another. -/
inductive Expects (scopes : Scopes) (scope : ScopeId) (head : String) : String → Nat → Prop where
  | definition (isDefine : head = "define") : Expects scopes scope head "define" 2
  | conditional (isIf : head = "if") : Expects scopes scope head "if" 3
  | call {builtin : Builtin} (calls : Calls scopes scope head builtin) :
      Expects scopes scope head builtin.symbol 2

/-- What an error tells of an expression and of the scopes after its evaluation. -/
def EvalError.Justified (scope : ScopeId) (expr : Expr) (after : Scopes) : EvalError → Prop
  | .unreadable _ => False
  | .undefined name => name ∈ expr.reads ∧ after.lookup? scope name = none
  | .expectedProcedureName =>
      ∃ items, .list items ∈ expr.parts ∧ ∀ head operands, items ≠ .symbol head :: operands
  | .expectedSymbol =>
      ∃ target body, .list [.symbol "define", target, body] ∈ expr.parts ∧
        ∀ name, target ≠ .symbol name
  | .wrongCount form expected found =>
      found ≠ expected ∧ ∃ head operands, .list (.symbol head :: operands) ∈ expr.parts ∧
        operands.length = found ∧ Expects after scope head form expected
  | .conditionNotBoolean found =>
      found ≠ .boolean ∧ ∃ condition consequent alternative,
        .list [.symbol "if", condition, consequent, alternative] ∈ expr.parts
  | .argumentNotNumber builtin found =>
      found ≠ .number ∧ ∃ head left right, .list [.symbol head, left, right] ∈ expr.parts ∧
        Calls after scope head builtin
  | .notCallable name =>
      name ≠ "define" ∧ name ≠ "if" ∧
        (∃ operands, .list (.symbol name :: operands) ∈ expr.parts) ∧
        ∃ value, after.lookup? scope name = some value ∧ value.kind ≠ .procedure

namespace EvalError

variable {scope : ScopeId} {scopes after : Scopes} {error : EvalError}

/-- What is told of a part is told of the whole. -/
theorem Justified.mono {part whole : Expr} (justified : error.Justified scope part after)
    (reads : part.reads ⊆ whole.reads) (parts : part.parts ⊆ whole.parts) :
    error.Justified scope whole after := by
  cases error with
  | unreadable error => exact justified
  | undefined name => exact ⟨reads justified.1, justified.2⟩
  | expectedProcedureName =>
      obtain ⟨items, isPart, noSymbol⟩ := justified
      exact ⟨items, parts isPart, noSymbol⟩
  | expectedSymbol =>
      obtain ⟨target, body, isPart, noSymbol⟩ := justified
      exact ⟨target, body, parts isPart, noSymbol⟩
  | wrongCount form expected found =>
      obtain ⟨count, head, operands, isPart, expects⟩ := justified
      exact ⟨count, head, operands, parts isPart, expects⟩
  | conditionNotBoolean found =>
      obtain ⟨kind, condition, consequent, alternative, isPart⟩ := justified
      exact ⟨kind, condition, consequent, alternative, parts isPart⟩
  | argumentNotNumber builtin found =>
      obtain ⟨kind, head, left, right, isPart, calls⟩ := justified
      exact ⟨kind, head, left, right, parts isPart, calls⟩
  | notCallable name =>
      obtain ⟨notDefine, notIf, ⟨operands, isPart⟩, bound⟩ := justified
      exact ⟨notDefine, notIf, ⟨operands, parts isPart⟩, bound⟩

theorem justified_of_refusedForm {items : List Expr} (refused : RefusedForm items error) :
    error.Justified scope (.list items) after := by
  have isPart : Expr.list items ∈ (Expr.list items).parts := Expr.mem_parts_self _
  cases refused with
  | head noSymbol => exact ⟨items, isPart, noSymbol⟩
  | target noSymbol => exact ⟨_, _, isPart, noSymbol⟩
  | definition count => exact ⟨count, _, _, isPart, rfl, .definition rfl⟩
  | conditional count => exact ⟨count, _, _, isPart, rfl, .conditional rfl⟩

theorem justified_of_callFailure {head : String} {operands : List Expr} {arguments : List Value}
    (notDefine : head ≠ "define") (notIf : head ≠ "if")
    (count : arguments.length = operands.length)
    (failure : CallFailure (after.lookup? scope head) head arguments error) :
    error.Justified scope (.list (.symbol head :: operands)) after := by
  have isPart : Expr.list (.symbol head :: operands) ∈
      (Expr.list (.symbol head :: operands)).parts :=
    Expr.mem_parts_self _
  cases failure with
  | undefined unbound =>
      refine ⟨?_, unbound⟩
      rw [Expr.reads_call operands notDefine notIf]
      exact List.mem_append_right _ (List.mem_singleton_self head)
  | notCallable bound other => exact ⟨notDefine, notIf, ⟨operands, isPart⟩, _, bound, other⟩
  | arguments bound refused =>
      have calls : Calls after scope head _ := ⟨notDefine, notIf, bound⟩
      cases refused with
      | count wrong => exact ⟨wrong, head, operands, isPart, count.symm, .call calls⟩
      | left notNumber =>
          obtain ⟨left, right, rfl⟩ := List.length_eq_two.1 count.symm
          exact ⟨notNumber, head, left, right, isPart, calls⟩
      | right notNumber =>
          obtain ⟨left, right, rfl⟩ := List.length_eq_two.1 count.symm
          exact ⟨notNumber, head, left, right, isPart, calls⟩

/-- What the error of a failure tells is so in the scopes that the failure leaves. -/
theorem justified_of_failure {expr : Expr} (failure : Failure scope scopes expr error after) :
    error.Justified scope expr after := by
  induction failure with
  | @undefined scopes name unbound =>
      refine ⟨?_, unbound⟩
      rw [Expr.reads_symbol]
      exact List.mem_singleton_self name
  | refused refused => exact justified_of_refusedForm refused
  | body failed ih =>
      apply ih.mono _ (Expr.parts_subset_list (by simp))
      rw [Expr.reads_definition]
      exact List.Subset.refl _
  | condition failed ih =>
      apply ih.mono _ (Expr.parts_subset_list (by simp))
      rw [Expr.reads_conditional]
      exact List.subset_append_left _ _
  | notBoolean ended notBoolean => exact ⟨notBoolean, _, _, _, Expr.mem_parts_self _⟩
  | consequent holds failed ih =>
      apply ih.mono _ (Expr.parts_subset_list (by simp))
      rw [Expr.reads_conditional]
      exact List.subset_append_of_subset_right _ (List.subset_append_left _ _)
  | alternative holdsNot failed ih =>
      apply ih.mono _ (Expr.parts_subset_list (by simp))
      rw [Expr.reads_conditional]
      exact List.subset_append_of_subset_right _ (List.subset_append_right _ _)
  | operand notDefine notIf reached failed ih =>
      apply ih.mono _ (Expr.parts_subset_list (by simp))
      rw [Expr.reads_call _ notDefine notIf]
      intro name isRead
      exact List.mem_append_left _ (List.mem_flatMap.2 ⟨_, by simp, isRead⟩)
  | call notDefine notIf reached failure =>
      exact justified_of_callFailure notDefine notIf (length_of_reaches_evalAll reached) failure

end EvalError

/-- Evaluation fails by the rules alone: a refused form at once, a call with the error of its
leftmost operand that fails, else for what its head is bound to, and only then for its arguments.
The error is no error of reading, and what it tells of the expression is true in the scopes that
are left. -/
theorem causes_of_failure :
    (∀ scope scopes expr error after,
      (eval scope expr).Fails scopes error after ↔ Failure scope scopes expr error after) ∧
    ∀ scope scopes expr error after, (eval scope expr).Fails scopes error after →
      error.Justified scope expr after := by
  refine ⟨fun _ _ _ _ _ => fails_eval_iff, ?_⟩
  intro scope scopes expr error after failed
  exact EvalError.justified_of_failure (failure_of_fails failed)

/-- The only operand makes the head another name of a procedure, which then is given one argument
and tells so under its own symbol. -/
theorem causes_of_failure_alias :
    let expr : Expr := .list [.symbol "p", .list [.symbol "define", .symbol "p", .symbol "-"]]
    let root := Interpreter.start.scopes
    let after := root.define 0 "p" (.procedure .subtract)
    (eval 0 expr).Fails root (.wrongCount "-" 2 1) after ∧
      Failure 0 root expr (.wrongCount "-" 2 1) after ∧
      (EvalError.wrongCount "-" 2 1).Justified 0 expr after := by
  intro expr root after
  have failed : (eval 0 expr).Fails root (.wrongCount "-" 2 1) after := by
    dsimp only [expr, root, after]
    exact ⟨by cbv, by cbv⟩
  exact ⟨failed, (causes_of_failure.1 0 root expr _ after).1 failed,
    causes_of_failure.2 0 root expr _ after failed⟩

end MiniLisp
