import MiniLisp.Interpreter
import MiniLisp.Proofs.EvaluationForms

/-!
# Evaluations replayed from their definitions

An evaluation acts on the scopes only through its definitions, and all of these go
into the scope it runs in.  So the scopes that it leaves, whether it comes to a
result or to an error, are those it started from with the definitions it has told
made once more, in order.

The property is stated for any evaluation and kept when evaluations follow one
another, and so it holds of `eval`.
-/

namespace MiniLisp

def Event.definition? : Event → Option (String × Value)
  | .defined name value => some (name, value)
  | _ => none

/-- The definitions among some events, in order. -/
def Event.definitions (events : List Event) : List (String × Value) :=
  events.filterMap definition?

@[simp] theorem Event.definitions_nil : definitions [] = [] :=
  rfl

@[simp] theorem Event.definitions_append (events later : List Event) :
    definitions (events ++ later) = definitions events ++ definitions later :=
  List.filterMap_append

/-- Make definitions in a scope, one after another. -/
def Scopes.replay (scope : ScopeId) (definitions : List (String × Value))
    (scopes : Scopes) : Scopes :=
  definitions.foldl (fun scopes entry => scopes.define scope entry.1 entry.2) scopes

theorem Scopes.replay_append (scope : ScopeId) (definitions later : List (String × Value))
    (scopes : Scopes) :
    scopes.replay scope (definitions ++ later) =
      (scopes.replay scope definitions).replay scope later :=
  List.foldl_append

theorem Scopes.count_replay (scope : ScopeId) (definitions : List (String × Value))
    (scopes : Scopes) : (scopes.replay scope definitions).count = scopes.count := by
  induction definitions generalizing scopes with
  | nil => rfl
  | cons entry definitions ih => exact (ih _).trans (count_define _ _ _ _)

theorem Scopes.outer?_replay (scope other : ScopeId) (definitions : List (String × Value))
    (scopes : Scopes) : (scopes.replay scope definitions).outer? other = scopes.outer? other := by
  induction definitions generalizing scopes with
  | nil => rfl
  | cons entry definitions ih => exact (ih _).trans (outer?_define _ _ _ _ _)

theorem Scopes.bindings_replay_of_ne {scope other : ScopeId} (definitions : List (String × Value))
    {scopes : Scopes} (known : scope < scopes.count) (differs : other ≠ scope) :
    (scopes.replay scope definitions).bindings other = scopes.bindings other := by
  induction definitions generalizing scopes with
  | nil => rfl
  | cons entry definitions ih =>
      refine (ih (by rw [count_define]; exact known)).trans ?_
      rw [bindings_define _ _ known, if_neg differs]

namespace Evaluation

variable {α β : Type}

/-- An evaluation leaves the scopes that its definitions, made in one scope, give. -/
def DefinesIn (scope : ScopeId) (evaluation : Evaluation α) : Prop :=
  ∀ scopes, (evaluation scopes).scopes =
    scopes.replay scope (Event.definitions (evaluation scopes).events)

variable {scope : ScopeId}

theorem definesIn_pure (value : α) : DefinesIn scope (pure value : Evaluation α) := by
  intro scopes
  rfl

theorem definesIn_ofExcept (result : Except EvalError α) :
    DefinesIn scope (ofExcept result) := by
  intro scopes
  rfl

theorem definesIn_fail (error : EvalError) : DefinesIn scope (fail error : Evaluation α) :=
  definesIn_ofExcept _

theorem definesIn_tell {event : Event} (noDefinition : event.definition? = none) :
    DefinesIn scope (tell event) := by
  intro scopes
  simp [tell, Event.definitions, Scopes.replay, noDefinition]

theorem definesIn_define (name : String) (value : Value) :
    DefinesIn scope (define scope name value) := by
  intro scopes
  rfl

theorem definesIn_lookup? (name : String) : DefinesIn scope (lookup? scope name) := by
  intro scopes
  rfl

/-- An evaluation and those that may follow it make their definitions in turn. -/
theorem DefinesIn.bind {first : Evaluation α} {continuation : α → Evaluation β}
    (before : DefinesIn scope first) (after : ∀ value, DefinesIn scope (continuation value)) :
    DefinesIn scope (first >>= continuation) := by
  intro scopes
  have made := before scopes
  cases ended : first scopes with
  | mk result between events =>
      rw [ended] at made
      cases result with
      | error error =>
          rw [bind_of_error ended]
          exact made
      | ok value =>
          rw [bind_of_ok ended]
          dsimp only at made ⊢
          rw [Event.definitions_append, Scopes.replay_append, ← made]
          exact after value between

theorem definesIn_defineAll (builtins : List Builtin) :
    DefinesIn scope (defineAll scope builtins) := by
  induction builtins with
  | nil => exact definesIn_pure _
  | cons builtin builtins ih =>
      exact (definesIn_define _ _).bind fun _ => ih

theorem definesIn_resolve (name : String) : DefinesIn scope (resolve scope name) := by
  refine (definesIn_lookup? name).bind fun found => ?_
  cases found with
  | some value => exact definesIn_pure _
  | none => exact definesIn_fail _

theorem definesIn_apply (builtin : Builtin) (arguments : List Value) :
    DefinesIn scope (apply builtin arguments) :=
  (definesIn_tell rfl).bind fun _ => definesIn_ofExcept _

theorem definesIn_call (name : String) (arguments : List Value) :
    DefinesIn scope (call scope name arguments) := by
  refine (definesIn_lookup? name).bind fun found => ?_
  cases found with
  | none => exact definesIn_fail _
  | some value =>
      cases value with
      | procedure builtin => exact definesIn_apply _ _
      | _ => exact definesIn_fail _

end Evaluation

open Evaluation

/-- Evaluating an expression makes all definitions in the scope of the evaluation. -/
theorem definesIn_eval (scope : ScopeId) (expr : Expr) : DefinesIn scope (eval scope expr) := by
  have closed : Closed scope (fun evaluation => DefinesIn scope evaluation) :=
    { pure := definesIn_pure
      bind := .bind
      resolve := definesIn_resolve
      define := definesIn_define
      call := definesIn_call
      refused := fun _ => definesIn_fail _
      notBoolean := fun _ => definesIn_fail _ }
  exact closed.eval expr

/-- So does evaluating a line. -/
theorem definesIn_evalLine (scope : ScopeId) (line : String) :
    DefinesIn scope (evalLine scope line) := by
  refine (definesIn_tell rfl).bind fun _ => (definesIn_ofExcept _).bind fun expr => ?_
  refine (definesIn_tell rfl).bind fun _ => (definesIn_eval scope expr).bind fun value => ?_
  exact (definesIn_tell rfl).bind fun _ => definesIn_pure _

end MiniLisp
