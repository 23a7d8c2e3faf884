import MiniLisp.Proofs.EvaluationForms

/-!
# What an evaluation does

Besides coming to a result, an evaluation makes definitions and calls.  Which ones, with which
values and in which order, follows from the shape of the expression and from what names resolve
to: a definition is made once its body has a value, of two branches only the chosen one has a
part, operands come from the left up to the first that fails, and after the last of them comes
the call, if the head then resolves to a procedure, whether the call succeeds or not.  Nothing
of this looks at events.  The events of an evaluation are exactly these deeds, each told once.
-/

namespace MiniLisp

open Evaluation

/-- Something that an evaluation does. -/
inductive Deed where
  | definition (name : String) (value : Value)
  | call (builtin : Builtin) (arguments : List Value)

def Deed.event : Deed → Event
  | .definition name value => .defined name value
  | .call builtin arguments => .applied builtin arguments

/-- The call that a form comes to after its operands. -/
def callOfHead (scope : ScopeId) (head : String) (operands : Outcome (List Value)) : List Deed :=
  match operands.result, operands.scopes.lookup? scope head with
  | .ok arguments, some (.procedure builtin) => [.call builtin arguments]
  | _, _ => []

mutual

/-- The definitions and calls that evaluating an expression makes, in order. -/
def deeds (scope : ScopeId) (scopes : Scopes) : Expr → List Deed
  | .list (.symbol head :: operands) =>
      if head = "define" then deedsOfDefine scope scopes operands
      else if head = "if" then deedsOfIf scope scopes operands
      else
        deedsOfAll scope scopes operands ++ callOfHead scope head (evalAll scope operands scopes)
  | _ => []

def deedsOfDefine (scope : ScopeId) (scopes : Scopes) : List Expr → List Deed
  | [.symbol name, body] =>
      deeds scope scopes body ++
        match (eval scope body scopes).result with
        | .ok value => [.definition name value]
        | .error _ => []
  | _ => []

def deedsOfIf (scope : ScopeId) (scopes : Scopes) : List Expr → List Deed
  | [condition, consequent, alternative] =>
      let chosen := eval scope condition scopes
      deeds scope scopes condition ++
        match chosen.result with
        | .ok (.boolean true) => deeds scope chosen.scopes consequent
        | .ok (.boolean false) => deeds scope chosen.scopes alternative
        | _ => []
  | _ => []

def deedsOfAll (scope : ScopeId) (scopes : Scopes) : List Expr → List Deed
  | [] => []
  | expr :: exprs =>
      let first := eval scope expr scopes
      deeds scope scopes expr ++
        match first.result with
        | .ok _ => deedsOfAll scope first.scopes exprs
        | .error _ => []

end

namespace Evaluation

variable {α β : Type}

theorem events_bind (first : Evaluation α) (continuation : α → Evaluation β) (scopes : Scopes) :
    ((first >>= continuation) scopes).events =
      (first scopes).events ++
        match (first scopes).result with
        | .ok value => (continuation value (first scopes).scopes).events
        | .error _ => [] := by
  cases ended : first scopes with
  | mk result between events =>
      cases result with
      | error error => rw [bind_of_error ended, List.append_nil]
      | ok value => rw [bind_of_ok ended]

theorem events_bind_pure (first : Evaluation α) (result : α → β) (scopes : Scopes) :
    ((first >>= fun value => pure (result value)) scopes).events = (first scopes).events := by
  rw [events_bind]
  cases (first scopes).result with
  | error error => exact List.append_nil _
  | ok value => exact List.append_nil _

theorem events_resolve (scope : ScopeId) (name : String) (scopes : Scopes) :
    (resolve scope name scopes).events = [] := by
  rw [resolve, events_bind]
  dsimp only [lookup?]
  cases scopes.lookup? scope name with
  | none => rfl
  | some value => rfl

/-- A call is told if there is a procedure to call, before anything is known of its result. -/
theorem events_call (scope : ScopeId) (head : String) (arguments : List Value)
    (scopes : Scopes) :
    (call scope head arguments scopes).events =
      match scopes.lookup? scope head with
      | some (.procedure builtin) => [.applied builtin arguments]
      | _ => [] := by
  rw [call, events_bind]
  dsimp only [lookup?]
  cases scopes.lookup? scope head with
  | none => rfl
  | some value => cases value <;> rfl

end Evaluation

theorem events_evalAll {scope : ScopeId} {exprs : List Expr}
    (each : ∀ expr ∈ exprs, ∀ scopes,
      (eval scope expr scopes).events = (deeds scope scopes expr).map Deed.event)
    (scopes : Scopes) :
    (evalAll scope exprs scopes).events = (deedsOfAll scope scopes exprs).map Deed.event := by
  induction exprs generalizing scopes with
  | nil =>
      rw [evalAll, deedsOfAll]
      rfl
  | cons expr exprs ih =>
      rw [evalAll, deedsOfAll, events_bind, each expr List.mem_cons_self, List.map_append]
      refine congrArg (_ ++ ·) ?_
      cases (eval scope expr scopes).result with
      | error error => rfl
      | ok value =>
          dsimp only
          rw [events_bind_pure]
          exact ih (fun other member => each other (List.mem_cons_of_mem _ member)) _

theorem deeds_refused (scope : ScopeId) (scopes : Scopes) {items : List Expr}
    {error : EvalError} (refused : RefusedForm items error) :
    deeds scope scopes (.list items) = [] := by
  cases refused with
  | head noSymbol =>
      rw [deeds]
      rintro head operands shape
      exact noSymbol head operands (Expr.list.inj shape)
  | target noSymbol =>
      rw [deeds, if_pos rfl, deedsOfDefine]
      rintro name body shape
      exact noSymbol name (List.cons.inj shape).1
  | definition count =>
      rw [deeds, if_pos rfl, deedsOfDefine]
      rintro name body rfl
      exact count rfl
  | conditional count =>
      rw [deeds, if_neg (by decide), if_pos rfl, deedsOfIf]
      rintro condition consequent alternative rfl
      exact count rfl

/-- What evaluating an expression tells is what it does. -/
theorem events_eval (scope : ScopeId) (expr : Expr) (scopes : Scopes) :
    (eval scope expr scopes).events = (deeds scope scopes expr).map Deed.event := by
  induction expr using Expr.form_induction generalizing scopes with
  | number value => rw [eval, deeds] <;> simp
  | boolean value => rw [eval, deeds] <;> simp
  | null => rw [eval, deeds] <;> simp
  | symbol name =>
      rw [eval, deeds]
      · exact events_resolve scope name scopes
      · simp
  | refused items error refused =>
      rw [eval_refused scope refused, deeds_refused scope scopes refused]
      rfl
  | definition name body ih =>
      rw [eval_definition, deeds, if_pos rfl, deedsOfDefine, events_bind, ih, List.map_append]
      cases (eval scope body scopes).result with
      | error error => rfl
      | ok value => rfl
  | conditional condition consequent alternative ihCondition ihConsequent ihAlternative =>
      rw [eval_conditional, deeds, if_neg (by decide), if_pos rfl, deedsOfIf, events_bind,
        ihCondition, List.map_append]
      refine congrArg (_ ++ ·) ?_
      cases (eval scope condition scopes).result with
      | error error => rfl
      | ok value =>
          cases value with
          | boolean holds =>
              cases holds with
              | true => exact ihConsequent _
              | false => exact ihAlternative _
          | _ => rfl
  | call head operands notDefine notIf ih =>
      rw [eval_call scope operands notDefine notIf, deeds, if_neg notDefine, if_neg notIf,
        events_bind, events_evalAll ih, List.map_append]
      refine congrArg (_ ++ ·) ?_
      rw [callOfHead]
      cases (evalAll scope operands scopes).result with
      | error error => rfl
      | ok arguments =>
          dsimp only
          rw [events_call]
          cases (evalAll scope operands scopes).scopes.lookup? scope head with
          | none => rfl
          | some value => cases value <;> rfl

end MiniLisp
