import MiniLisp.Proofs.AgreeingScopes
import MiniLisp.Proofs.EvaluationForms
import MiniLisp.Proofs.LineStages
import MiniLisp.Proofs.WrittenExpressions

/-!
# Expressions of arithmetic and choice

Numbers, truth values, names of either, calls of built-in procedures on two numbers and
conditionals make up expressions that only compute.  What one of them denotes is said by the
rules below, without evaluating anything in order: a call denotes the sum, the difference, the
product or the quotient of the doubles that its operands denote, the left one first, and a
conditional what its chosen branch denotes, whatever the other branch is.  Built-in procedures
are meant by what a name resolves to, so they may have other names, and their own symbols may
stand for something else.

Evaluation gives just that, in any scope, and leaves all scopes as they were; and so does the
line in which the expression is written, if it can be read back.
-/

namespace MiniLisp

/-- What the built-in procedures make of two doubles, the left one first. -/
inductive Computes (left right : Float) : Builtin → Float → Prop where
  | sum : Computes left right .add (left + right)
  | difference : Computes left right .subtract (left - right)
  | product : Computes left right .multiply (left * right)
  | quotient : Computes left right .divide (left / right)

theorem Computes.eq_operation {left right result : Float} {builtin : Builtin}
    (computes : Computes left right builtin result) : builtin.operation left right = result := by
  cases computes <;> rfl

/-- What an expression that only computes denotes, with names as they resolve from a scope. -/
inductive Denotes (scopes : Scopes) (scope : ScopeId) : Expr → Value → Prop where
  | number (value : Float) : Denotes scopes scope (.number value) (.number value)
  | boolean (value : Bool) : Denotes scopes scope (.boolean value) (.boolean value)
  | nameOfNumber {name : String} {value : Float}
      (found : scopes.lookup? scope name = some (.number value)) :
      Denotes scopes scope (.symbol name) (.number value)
  | nameOfBoolean {name : String} {value : Bool}
      (found : scopes.lookup? scope name = some (.boolean value)) :
      Denotes scopes scope (.symbol name) (.boolean value)
  | call {head : String} {builtin : Builtin} {left right : Expr} {first second result : Float}
      (notDefine : head ≠ "define") (notIf : head ≠ "if")
      (found : scopes.lookup? scope head = some (.procedure builtin))
      (onLeft : Denotes scopes scope left (.number first))
      (onRight : Denotes scopes scope right (.number second))
      (computes : Computes first second builtin result) :
      Denotes scopes scope (.list [.symbol head, left, right]) (.number result)
  | consequent {condition consequent : Expr} {value : Value} (alternative : Expr)
      (holds : Denotes scopes scope condition (.boolean true))
      (chosen : Denotes scopes scope consequent value) :
      Denotes scopes scope (.list [.symbol "if", condition, consequent, alternative]) value
  | alternative {condition alternative : Expr} {value : Value} (consequent : Expr)
      (fails : Denotes scopes scope condition (.boolean false))
      (chosen : Denotes scopes scope alternative value) :
      Denotes scopes scope (.list [.symbol "if", condition, consequent, alternative]) value

namespace Evaluation

variable {α β : Type} {scopes : Scopes}

/-- An evaluation that comes to a value and leaves the scopes as they are. -/
def Gives (scopes : Scopes) (evaluation : Evaluation α) (value : α) : Prop :=
  ∃ events, evaluation scopes = { result := .ok value, scopes, events }

theorem gives_pure (value : α) : Gives scopes (pure value) value :=
  ⟨[], rfl⟩

theorem gives_tell (event : Event) : Gives scopes (tell event) () :=
  ⟨[event], rfl⟩

theorem gives_lookup? (scope : ScopeId) (name : String) :
    Gives scopes (lookup? scope name) (scopes.lookup? scope name) :=
  ⟨[], rfl⟩

theorem Gives.bind {first : Evaluation α} {continuation : α → Evaluation β} {value : α}
    {result : β} (before : Gives scopes first value)
    (after : Gives scopes (continuation value) result) :
    Gives scopes (first >>= continuation) result := by
  obtain ⟨events, ended⟩ := before
  obtain ⟨later, endedAfter⟩ := after
  refine ⟨events ++ later, ?_⟩
  rw [bind_of_ok ended, endedAfter]

theorem gives_resolve {scope : ScopeId} {name : String} {value : Value}
    (found : scopes.lookup? scope name = some value) :
    Gives scopes (resolve scope name) value := by
  apply (gives_lookup? scope name).bind
  rw [found]
  exact gives_pure value

theorem gives_call {scope : ScopeId} {name : String} {builtin : Builtin}
    {first second result : Float}
    (found : scopes.lookup? scope name = some (.procedure builtin))
    (computes : Computes first second builtin result) :
    Gives scopes (call scope name [.number first, .number second]) (.number result) := by
  apply (gives_lookup? scope name).bind
  rw [found, ← computes.eq_operation]
  exact (gives_tell _).bind (gives_pure _)

end Evaluation

open Evaluation

variable {scopes : Scopes} {scope : ScopeId} {expr : Expr} {value : Value}

theorem gives_evalAll_pair {left right : Expr} {first second : Value}
    (onLeft : Gives scopes (eval scope left) first)
    (onRight : Gives scopes (eval scope right) second) :
    Gives scopes (evalAll scope [left, right]) [first, second] := by
  have last : Gives scopes (evalAll scope []) [] := by
    rw [evalAll]
    exact gives_pure []
  have others : Gives scopes (evalAll scope [right]) [second] := by
    rw [evalAll]
    exact onRight.bind (last.bind (gives_pure _))
  rw [evalAll]
  exact onLeft.bind (others.bind (gives_pure _))

/-- Evaluation gives what an expression denotes. -/
theorem Denotes.gives (denotes : Denotes scopes scope expr value) :
    Gives scopes (eval scope expr) value := by
  induction denotes with
  | number value =>
      rw [eval]
      exact gives_pure _
  | boolean value =>
      rw [eval]
      exact gives_pure _
  | nameOfNumber found =>
      rw [eval]
      exact gives_resolve found
  | nameOfBoolean found =>
      rw [eval]
      exact gives_resolve found
  | call notDefine notIf found onLeft onRight computes ihLeft ihRight =>
      rw [eval_call scope _ notDefine notIf]
      exact (gives_evalAll_pair ihLeft ihRight).bind (gives_call found computes)
  | consequent alternative holds chosen ihHolds ihChosen =>
      rw [eval_conditional]
      exact ihHolds.bind ihChosen
  | alternative consequent fails chosen ihFails ihChosen =>
      rw [eval_conditional]
      exact ihFails.bind ihChosen

theorem Denotes.result_eval (denotes : Denotes scopes scope expr value) :
    (eval scope expr scopes).result = .ok value := by
  obtain ⟨events, ended⟩ := denotes.gives
  rw [ended]

theorem Denotes.scopes_eval (denotes : Denotes scopes scope expr value) :
    (eval scope expr scopes).scopes = scopes := by
  obtain ⟨events, ended⟩ := denotes.gives
  rw [ended]

/-- No expression denotes two values. -/
theorem Denotes.unique {other : Value} (denotes : Denotes scopes scope expr value)
    (denotesOther : Denotes scopes scope expr other) : other = value :=
  Except.ok.inj (denotesOther.result_eval.symm.trans denotes.result_eval)

theorem readText_text_of_finite (lexical : expr.Lexical) (shallow : expr.depth ≤ maxDepth)
    (finite : ∀ number ∈ expr.numbers, Double.isFinite number = true) :
    readText expr.text = .ok expr := by
  rw [Expr.readText_text_of_depth_le lexical shallow, expr.reread_eq_self_iff.2 finite]

/-- An expression that only computes evaluates to the one value that it denotes and leaves
every scope as it is.  If it can be written and read back, so does the line in which it is
written. -/
theorem eval_of_denotes (denotes : Denotes scopes scope expr value) :
    (eval scope expr scopes).result = .ok value ∧ (eval scope expr scopes).scopes = scopes ∧
      (∀ other, Denotes scopes scope expr other → other = value) ∧
      (expr.depth ≤ 1024 → expr.Lexical →
        (∀ number ∈ expr.numbers, Double.isFinite number = true) →
          (Interpreter.outcome { scopes, scope } expr.text).result = .ok value ∧
          (Interpreter.outcome { scopes, scope } expr.text).scopes = scopes) := by
  refine ⟨denotes.result_eval, denotes.scopes_eval, fun other => denotes.unique, ?_⟩
  intro shallow lexical finite
  have read := readText_text_of_finite lexical shallow finite
  rw [Interpreter.outcome, evalLine_of_read_eq_ok read]
  exact ⟨denotes.result_eval, denotes.scopes_eval⟩

/-- Subtraction has another name here, division its own, and the symbol of subtraction stands for
a number.  The branch that is not chosen could not be evaluated. -/
theorem eval_of_denotes_renamed :
    let two := Double.ofMagnitude false 0x4000000000000000
    let eight := Double.ofMagnitude false 0x4020000000000000
    let outer := ((Scopes.empty.add none).define 0 "minus" (.procedure .subtract)).define 0 "/"
      (.procedure .divide)
    let scopes := (outer.add (some 0)).define 1 "-" (.number eight)
    let expr : Expr :=
      .list [.symbol "if", .boolean false, .list [],
        .list [.symbol "minus", .list [.symbol "/", .symbol "-", .number two], .symbol "-"]]
    Denotes scopes 1 expr (.number (eight / two - eight)) ∧ expr.depth ≤ 1024 ∧ expr.Lexical ∧
      (∀ number ∈ expr.numbers, Double.isFinite number = true) ∧
      (Interpreter.outcome { scopes, scope := 1 } expr.text).result =
        .ok (.number (eight / two - eight)) ∧
      (Interpreter.outcome { scopes, scope := 1 } expr.text).scopes = scopes := by
  intro two eight outer scopes expr
  have hidden : scopes.lookup? 1 "-" = some (.number eight) := by
    rw [Scopes.lookup?_define "-" _ (by decide), if_pos rfl]
  have outermost : 0 < outer.count := by decide
  have inherited {name : String} (differs : "-" ≠ name) :
      scopes.lookup? 1 name = outer.lookup? 0 name :=
    (Scopes.lookup?_define_of_ne 1 differs _ _ 1).trans
      ((agreement_add outermost).lookup? name trivial)
  have divides : scopes.lookup? 1 "/" = some (.procedure .divide) := by
    rw [inherited (by decide), Scopes.lookup?_define "/" _ (by decide), if_pos rfl]
  have renamed : scopes.lookup? 1 "minus" = some (.procedure .subtract) := by
    rw [inherited (by decide), Scopes.lookup?_define_of_ne 0 (by decide),
      Scopes.lookup?_define "minus" _ (by decide), if_pos rfl]
  have denotes : Denotes scopes 1 expr (.number (eight / two - eight)) := by
    have quotient := Denotes.call (by decide) (by decide) divides (.nameOfNumber hidden)
      (.number two) .quotient
    have chosen := Denotes.call (by decide) (by decide) renamed quotient (.nameOfNumber hidden)
      .difference
    exact .alternative _ (.boolean false) chosen
  have shallow : expr.depth ≤ 1024 := by decide
  have lexical : expr.Lexical := by
    intro name occurs
    change name ∈ ["if", "minus", "/", "-", "-"] at occurs
    simp only [List.mem_cons, List.not_mem_nil, or_false] at occurs
    rcases occurs with rfl | rfl | rfl | rfl | rfl
    all_goals exact ⟨isWord_of_all rfl rfl, rfl⟩
  have finite : ∀ number ∈ expr.numbers, Double.isFinite number = true := by
    intro number occurs
    rw [List.mem_singleton.1 occurs]
    decide +kernel
  exact ⟨denotes, shallow, lexical, finite, (eval_of_denotes denotes).2.2.2 shallow lexical finite⟩

end MiniLisp
