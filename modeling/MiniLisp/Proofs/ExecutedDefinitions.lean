import MiniLisp.Proofs.EvaluationDeeds
import MiniLisp.Proofs.EvaluationReplay

/-!
# The definitions that an expression executes

Which `define` forms an evaluation gets to, and with which values, follows from the
shape of the expression: a definition is executed once its body has a value, of two
branches only the chosen one is evaluated, and operands are evaluated from the left
up to the first that fails.  They are what is left of the deeds of an evaluation without
the calls, and so the definitions that it tells are exactly these.
-/

namespace MiniLisp

open Evaluation

mutual

/-- The definitions that evaluating an expression executes, in order. -/
def executions (scope : ScopeId) (scopes : Scopes) : Expr → List (String × Value)
  | .list (.symbol head :: operands) =>
      if head = "define" then executionsOfDefine scope scopes operands
      else if head = "if" then executionsOfIf scope scopes operands
      else executionsOfAll scope scopes operands
  | _ => []

def executionsOfDefine (scope : ScopeId) (scopes : Scopes) :
    List Expr → List (String × Value)
  | [.symbol name, body] =>
      executions scope scopes body ++
        match (eval scope body scopes).result with
        | .ok value => [(name, value)]
        | .error _ => []
  | _ => []

def executionsOfIf (scope : ScopeId) (scopes : Scopes) : List Expr → List (String × Value)
  | [condition, consequent, alternative] =>
      let chosen := eval scope condition scopes
      executions scope scopes condition ++
        match chosen.result with
        | .ok (.boolean true) => executions scope chosen.scopes consequent
        | .ok (.boolean false) => executions scope chosen.scopes alternative
        | _ => []
  | _ => []

def executionsOfAll (scope : ScopeId) (scopes : Scopes) : List Expr → List (String × Value)
  | [] => []
  | expr :: exprs =>
      let first := eval scope expr scopes
      executions scope scopes expr ++
        match first.result with
        | .ok _ => executionsOfAll scope first.scopes exprs
        | .error _ => []

end

/-- The definitions that evaluating a line executes. -/
def executionsOfLine (scope : ScopeId) (scopes : Scopes) (line : String) :
    List (String × Value) :=
  match readTokens (tokenize line) with
  | .ok expr => executions scope scopes expr
  | .error _ => []

def Deed.definition? : Deed → Option (String × Value)
  | .definition name value => some (name, value)
  | .call _ _ => none

theorem definitions_map_event (made : List Deed) :
    Event.definitions (made.map Deed.event) = made.filterMap Deed.definition? := by
  rw [Event.definitions, List.filterMap_map]
  refine congrArg (List.filterMap · made) (funext fun deed => ?_)
  cases deed <;> rfl

theorem filterMap_callOfHead (scope : ScopeId) (head : String)
    (operands : Outcome (List Value)) :
    (callOfHead scope head operands).filterMap Deed.definition? = [] := by
  unfold callOfHead
  split <;> rfl

theorem executionsOfAll_eq {scope : ScopeId} {exprs : List Expr}
    (each : ∀ expr ∈ exprs, ∀ scopes,
      executions scope scopes expr = (deeds scope scopes expr).filterMap Deed.definition?)
    (scopes : Scopes) :
    executionsOfAll scope scopes exprs =
      (deedsOfAll scope scopes exprs).filterMap Deed.definition? := by
  induction exprs generalizing scopes with
  | nil => rw [executionsOfAll, deedsOfAll, List.filterMap_nil]
  | cons expr exprs ih =>
      rw [executionsOfAll, deedsOfAll, each expr List.mem_cons_self, List.filterMap_append]
      cases (eval scope expr scopes).result with
      | error error => rfl
      | ok value =>
          exact congrArg (_ ++ ·)
            (ih (fun other member => each other (List.mem_cons_of_mem _ member)) _)

theorem executions_refused (scope : ScopeId) (scopes : Scopes) {items : List Expr}
    {error : EvalError} (refused : RefusedForm items error) :
    executions scope scopes (.list items) = [] := by
  cases refused with
  | head noSymbol =>
      rw [executions]
      rintro head operands shape
      exact noSymbol head operands (Expr.list.inj shape)
  | target noSymbol =>
      rw [executions, if_pos rfl, executionsOfDefine]
      rintro name body shape
      exact noSymbol name (List.cons.inj shape).1
  | definition count =>
      rw [executions, if_pos rfl, executionsOfDefine]
      rintro name body rfl
      exact count rfl
  | conditional count =>
      rw [executions, if_neg (by decide), if_pos rfl, executionsOfIf]
      rintro condition consequent alternative rfl
      exact count rfl

/-- What is executed is what is done, but for the calls. -/
theorem executions_eq (scope : ScopeId) (expr : Expr) (scopes : Scopes) :
    executions scope scopes expr = (deeds scope scopes expr).filterMap Deed.definition? := by
  induction expr using Expr.form_induction generalizing scopes with
  | number value => rw [executions, deeds] <;> simp
  | boolean value => rw [executions, deeds] <;> simp
  | null => rw [executions, deeds] <;> simp
  | symbol name => rw [executions, deeds] <;> simp
  | refused items error refused =>
      rw [executions_refused scope scopes refused, deeds_refused scope scopes refused,
        List.filterMap_nil]
  | definition name body ih =>
      rw [executions, deeds, if_pos rfl, if_pos rfl, executionsOfDefine, deedsOfDefine,
        List.filterMap_append, ih]
      cases (eval scope body scopes).result <;> rfl
  | conditional condition consequent alternative ihCondition ihConsequent ihAlternative =>
      have notDefine : "if" ≠ "define" := by decide
      rw [executions, deeds, if_neg notDefine, if_neg notDefine, if_pos rfl, if_pos rfl,
        executionsOfIf, deedsOfIf, List.filterMap_append, ihCondition]
      refine congrArg (_ ++ ·) ?_
      cases (eval scope condition scopes).result with
      | error error => rfl
      | ok value =>
          cases value with
          | boolean holds =>
              cases holds with
              | true => exact ihConsequent _
              | false => exact ihAlternative _
          | _ => rfl
  | call head operands notDefine notIf ih =>
      rw [executions, deeds, if_neg notDefine, if_neg notDefine, if_neg notIf, if_neg notIf,
        executionsOfAll_eq ih, List.filterMap_append, filterMap_callOfHead, List.append_nil]

/-- What evaluating an expression tells to be defined is what it executes. -/
theorem definitions_eval (scope : ScopeId) (expr : Expr) (scopes : Scopes) :
    Event.definitions (eval scope expr scopes).events = executions scope scopes expr := by
  rw [events_eval, definitions_map_event, executions_eq]

/-- The definitions of the procedures are told in order. -/
theorem definitions_defineAll (scope : ScopeId) (builtins : List Builtin) (scopes : Scopes) :
    Event.definitions (defineAll scope builtins scopes).events =
      builtins.map fun builtin => (builtin.symbol, .procedure builtin) := by
  induction builtins generalizing scopes with
  | nil => rfl
  | cons builtin builtins ih =>
      rw [defineAll, events_bind, Event.definitions_append]
      exact congrArg ([(builtin.symbol, Value.procedure builtin)] ++ ·) (ih _)

/-- What evaluating a line tells to be defined is what it executes. -/
theorem definitions_evalLine (scope : ScopeId) (line : String) (scopes : Scopes) :
    Event.definitions (evalLine scope line scopes).events =
      executionsOfLine scope scopes line := by
  unfold evalLine executionsOfLine
  cases readTokens (tokenize line) with
  | error error => rfl
  | ok expr =>
      have told : Event.definitions
          ((eval scope expr >>= fun value =>
            tell (.evaluated value) >>= fun _ => pure value) scopes).events =
          executions scope scopes expr := by
        rw [events_bind, Event.definitions_append, definitions_eval]
        cases (eval scope expr scopes).result with
        | error error => exact List.append_nil _
        | ok value => exact List.append_nil _
      exact told

end MiniLisp
