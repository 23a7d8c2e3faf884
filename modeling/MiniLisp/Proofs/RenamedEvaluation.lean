import Mathlib.Logic.Equiv.Basic
import MiniLisp.Proofs.CallEvents
import MiniLisp.Proofs.IndependentExpressions
import MiniLisp.Proofs.RenamedScopes

/-!
# Evaluation under other names

Names have no meaning of their own, except for the two keywords.  If names are renamed by an
injective function that keeps the keywords, in an expression and in the scopes, evaluating the
expression comes to the same with the new names: to the same value, or to the same error,
where the name that is at fault is the new one, and to the same definitions.

The keywords are not looked up at the head of a form, so it does not matter what they are
bound to.  And a procedure does not know by what name it was called.
-/

namespace MiniLisp

variable {newName : String → String}

namespace Expr

mutual

def rename (newName : String → String) : Expr → Expr
  | .list items => .list (renameAll newName items)
  | .symbol name => .symbol (newName name)
  | .number value => .number value
  | .boolean value => .boolean value
  | .null => .null

def renameAll (newName : String → String) : List Expr → List Expr
  | [] => []
  | item :: items => rename newName item :: renameAll newName items

end

theorem renameAll_eq_map (items : List Expr) :
    renameAll newName items = items.map (rename newName) := by
  induction items with
  | nil => rfl
  | cons item items ih => rw [renameAll, ih, List.map_cons]

theorem rename_list (items : List Expr) :
    (Expr.list items).rename newName = .list (items.map (rename newName)) := by
  rw [rename, renameAll_eq_map]

theorem rename_symbol (name : String) :
    (Expr.symbol name).rename newName = .symbol (newName name) := by
  rw [rename]

theorem eq_symbol_of_rename {expr : Expr} {name : String}
    (renamed : expr.rename newName = .symbol name) : ∃ old, expr = .symbol old := by
  cases expr with
  | symbol old => exact ⟨old, rfl⟩
  | list items => cases renamed
  | number value => cases renamed
  | boolean value => cases renamed
  | null => cases renamed

end Expr

def EvalError.rename (newName : String → String) : EvalError → EvalError
  | .undefined name => .undefined (newName name)
  | .notCallable name => .notCallable (newName name)
  | error => error

def Event.rename (newName : String → String) : Event → Event
  | .defined name value => .defined (newName name) value
  | event => event

/-- An outcome with all names renamed that are in its error, its scopes and its definitions. -/
def Outcome.rename {α : Type} (newName : String → String) (outcome : Outcome α) : Outcome α where
  result := outcome.result.mapError (EvalError.rename newName)
  scopes := outcome.scopes.rename newName
  events := outcome.events.map (Event.rename newName)

theorem RefusedForm.rename_error {items : List Expr} {error : EvalError}
    (refused : RefusedForm items error) : error.rename newName = error := by
  cases refused <;> rfl

theorem Builtin.Raises.rename_error {builtin : Builtin} {error : EvalError}
    (raised : builtin.Raises error) : error.rename newName = error := by
  cases raised <;> rfl

/-- A form is refused under other names just as it was. -/
theorem RefusedForm.rename (keepsDefine : newName "define" = "define")
    (keepsIf : newName "if" = "if") {items : List Expr} {error : EvalError}
    (refused : RefusedForm items error) :
    RefusedForm (items.map (Expr.rename newName)) error := by
  cases refused with
  | head noSymbol =>
      refine .head fun head operands shape => ?_
      obtain ⟨first, others, rfl, isSymbol, -⟩ := List.map_eq_cons_iff.1 shape
      obtain ⟨old, rfl⟩ := Expr.eq_symbol_of_rename isSymbol
      exact noSymbol old others rfl
  | @target target body noSymbol =>
      have renamed : ∀ name, target.rename newName ≠ .symbol name := by
        intro name isSymbol
        obtain ⟨old, rfl⟩ := Expr.eq_symbol_of_rename isSymbol
        exact noSymbol old rfl
      have isRefused : RefusedForm
          [.symbol "define", target.rename newName, body.rename newName] .expectedSymbol :=
        .target renamed
      simpa only [List.map_cons, List.map_nil, Expr.rename_symbol, keepsDefine] using isRefused
  | @definition operands count =>
      have renamed : (operands.map (Expr.rename newName)).length ≠ 2 := by simpa using count
      simpa only [List.map_cons, Expr.rename_symbol, keepsDefine, List.length_map] using
        RefusedForm.definition renamed
  | @conditional operands count =>
      have renamed : (operands.map (Expr.rename newName)).length ≠ 3 := by simpa using count
      simpa only [List.map_cons, Expr.rename_symbol, keepsIf, List.length_map] using
        RefusedForm.conditional renamed

namespace Evaluation

variable {α β : Type}

/-- An evaluation under other names comes to the outcome of the first one with these names. -/
def Renamed (newName : String → String) (evaluation renamed : Evaluation α) : Prop :=
  ∀ scopes : Scopes, renamed (scopes.rename newName) = (evaluation scopes).rename newName

theorem renamed_pure (value : α) :
    Renamed newName (pure value : Evaluation α) (pure value) := by
  intro scopes
  rfl

theorem renamed_fail (error : EvalError) :
    Renamed newName (fail error : Evaluation α) (fail (error.rename newName)) := by
  intro scopes
  rfl

theorem renamed_lookup? (injective : Function.Injective newName) (scope : ScopeId)
    (name : String) :
    Renamed newName (lookup? scope name) (lookup? scope (newName name)) := by
  intro scopes
  rw [lookup?, Scopes.lookup?_rename injective]
  rfl

theorem renamed_define (injective : Function.Injective newName) (scope : ScopeId)
    (name : String) (value : Value) :
    Renamed newName (define scope name value) (define scope (newName name) value) := by
  intro scopes
  rw [define, ← Scopes.rename_define injective]
  rfl

theorem Renamed.bind {first renamedFirst : Evaluation α}
    {continuation renamedContinuation : α → Evaluation β}
    (before : Renamed newName first renamedFirst)
    (after : ∀ value, Renamed newName (continuation value) (renamedContinuation value)) :
    Renamed newName (first >>= continuation) (renamedFirst >>= renamedContinuation) := by
  intro scopes
  have begun := before scopes
  cases ended : first scopes with
  | mk result between events =>
      rw [ended] at begun
      cases result with
      | error error =>
          rw [bind_of_error ended, bind_of_error begun]
          rfl
      | ok value =>
          rw [bind_of_ok ended, bind_of_ok begun, after value between]
          simp only [Outcome.rename, List.map_append]

/-- The errors that a procedure raises name the procedure itself, which keeps its symbol. -/
theorem renamed_apply (builtin : Builtin) (arguments : List Value) :
    Renamed newName (apply builtin arguments) (apply builtin arguments) := by
  have kept : (builtin.apply arguments).mapError (EvalError.rename newName) =
      builtin.apply arguments := by
    cases applied : builtin.apply arguments with
    | ok value => rfl
    | error error =>
        exact congrArg Except.error (Builtin.raises_of_apply_eq_error applied).rename_error
  intro scopes
  exact congrArg (Outcome.mk · _ _) kept.symm

theorem renamed_resolve (injective : Function.Injective newName) (scope : ScopeId)
    (name : String) :
    Renamed newName (resolve scope name) (resolve scope (newName name)) := by
  apply (renamed_lookup? injective scope name).bind
  intro found
  cases found with
  | some value => exact renamed_pure value
  | none => exact renamed_fail _

theorem renamed_call (injective : Function.Injective newName) (scope : ScopeId)
    (name : String) (arguments : List Value) :
    Renamed newName (call scope name arguments) (call scope (newName name) arguments) := by
  apply (renamed_lookup? injective scope name).bind
  intro found
  cases found with
  | none => exact renamed_fail _
  | some value =>
      cases value with
      | procedure builtin => exact renamed_apply builtin arguments
      | _ => exact renamed_fail _

end Evaluation

open Evaluation

theorem renamed_evalAll {scope : ScopeId} {exprs : List Expr}
    (each : ∀ expr ∈ exprs, Renamed newName (eval scope expr) (eval scope (expr.rename newName))) :
    Renamed newName (evalAll scope exprs) (evalAll scope (exprs.map (Expr.rename newName))) := by
  induction exprs with
  | nil =>
      rw [List.map_nil, evalAll]
      exact renamed_pure _
  | cons expr exprs ih =>
      rw [List.forall_mem_cons] at each
      rw [List.map_cons, evalAll, evalAll]
      exact each.1.bind fun _ => (ih each.2).bind fun _ => renamed_pure _

theorem renamed_eval (injective : Function.Injective newName)
    (keepsDefine : newName "define" = "define") (keepsIf : newName "if" = "if")
    (scope : ScopeId) (expr : Expr) :
    Renamed newName (eval scope expr) (eval scope (expr.rename newName)) := by
  induction expr using Expr.form_induction with
  | number value =>
      rw [Expr.rename, eval]
      exact renamed_pure _
  | boolean value =>
      rw [Expr.rename, eval]
      exact renamed_pure _
  | null =>
      rw [Expr.rename, eval]
      exact renamed_pure _
  | symbol name =>
      rw [Expr.rename, eval, eval]
      exact renamed_resolve injective scope name
  | refused items error refused =>
      have kept : Renamed newName (fail error : Evaluation Value)
          (fail (error.rename newName)) :=
        renamed_fail error
      rw [refused.rename_error] at kept
      rw [Expr.rename_list, eval_refused scope refused,
        eval_refused scope (refused.rename keepsDefine keepsIf)]
      exact kept
  | definition name body ih =>
      simp only [Expr.rename_list, Expr.rename_symbol, List.map_cons, List.map_nil, keepsDefine]
      rw [eval_definition, eval_definition]
      apply ih.bind
      intro value
      exact (renamed_define injective scope name value).bind fun _ => renamed_pure _
  | conditional condition consequent alternative ihCondition ihConsequent ihAlternative =>
      simp only [Expr.rename_list, Expr.rename_symbol, List.map_cons, List.map_nil, keepsIf]
      rw [eval_conditional, eval_conditional]
      apply ihCondition.bind
      intro value
      cases value with
      | boolean holds =>
          cases holds with
          | true => exact ihConsequent
          | false => exact ihAlternative
      | _ => exact renamed_fail _
  | call head operands notDefine notIf ih =>
      -- Only the keywords themselves are renamed to keywords.
      have notDefine' : newName head ≠ "define" := by
        rw [← keepsDefine]
        exact injective.ne notDefine
      have notIf' : newName head ≠ "if" := by
        rw [← keepsIf]
        exact injective.ne notIf
      rw [Expr.rename_list, List.map_cons, Expr.rename_symbol,
        eval_call scope operands notDefine notIf, eval_call scope _ notDefine' notIf']
      exact (renamed_evalAll ih).bind fun arguments => renamed_call injective scope head arguments

/-- Forms with a keyword at the head come to what the parts of the form come to. -/
structure KeywordRules (scope : ScopeId) (scopes : Scopes) : Prop where
  definition : ∀ name body,
    eval scope (.list [.symbol "define", .symbol name, body]) scopes =
      (eval scope body >>= fun value => define scope name value >>= fun _ => pure .null) scopes
  conditional : ∀ condition consequent alternative,
    eval scope (.list [.symbol "if", condition, consequent, alternative]) scopes =
      (eval scope condition >>= fun value =>
        branch value (eval scope consequent) (eval scope alternative)) scopes
  refused : ∀ items error, RefusedForm items error →
    eval scope (.list items) scopes = fail error scopes

theorem keywordRules (scope : ScopeId) (scopes : Scopes) : KeywordRules scope scopes where
  definition := fun name body => congrFun (eval_definition scope name body) scopes
  conditional := fun condition consequent alternative =>
    congrFun (eval_conditional scope condition consequent alternative) scopes
  refused := fun _ _ refused => congrFun (eval_refused scope refused) scopes

/-- Binding a keyword, in whatever scope, is not noticed by an expression that has it only at
the head of forms. -/
theorem eval_define_keyword {scope : ScopeId} {scopes : Scopes} (known : scope < scopes.count)
    (changed : ScopeId) {keyword : String} (value : Value) {expr : Expr}
    (unread : keyword ∉ expr.reads) :
    (eval scope expr (scopes.define changed keyword value)).result =
        (eval scope expr scopes).result ∧
      (eval scope expr (scopes.define changed keyword value)).events =
        (eval scope expr scopes).events := by
  have unreadEntries : ∀ entry ∈ [(keyword, value)], entry.1 ∉ expr.reads := by
    intro entry isEntry
    rw [List.mem_singleton.1 isEntry]
    exact unread
  exact eval_replay known changed unreadEntries

/-- What a call of a procedure comes to has to do with the procedure and not with the name by
which it is called. -/
theorem result_eval_call {scope : ScopeId} {head : String} {operands : List Expr}
    (notDefine : head ≠ "define") (notIf : head ≠ "if") {scopes between : Scopes}
    {arguments : List Value} {events : List Event} {builtin : Builtin}
    (evaluated : evalAll scope operands scopes =
      { result := .ok arguments, scopes := between, events })
    (resolved : between.lookup? scope head = some (.procedure builtin)) :
    (eval scope (.list (.symbol head :: operands)) scopes).result = builtin.apply arguments := by
  have found : lookup? scope head between =
      { result := .ok (some (.procedure builtin)), scopes := between, events := [] } := by
    rw [lookup?, resolved]
  rw [eval_call scope operands notDefine notIf, bind_of_ok evaluated, call, bind_of_ok found]
  rfl

/-- Evaluation knows names only by what they are bound to, apart from the two keywords: under
other names it comes to the same with these names, no matter what the keywords are bound to,
and an error of a procedure names the procedure however it was called. -/
theorem eval_rename (injective : Function.Injective newName)
    (keepsDefine : newName "define" = "define") (keepsIf : newName "if" = "if")
    (scope : ScopeId) (expr : Expr) (scopes : Scopes) :
    eval scope (expr.rename newName) (scopes.rename newName) =
        (eval scope expr scopes).rename newName ∧
      (∀ keyword ∈ ["define", "if"], ∀ changed value,
        KeywordRules scope (scopes.define changed keyword value) ∧
          (scope < scopes.count → keyword ∉ expr.reads →
            (eval scope expr (scopes.define changed keyword value)).result =
                (eval scope expr scopes).result ∧
              (eval scope expr (scopes.define changed keyword value)).events =
                (eval scope expr scopes).events)) ∧
      ∀ head operands arguments between events builtin, head ≠ "define" → head ≠ "if" →
        evalAll scope operands scopes =
            { result := .ok arguments, scopes := between, events } →
          between.lookup? scope head = some (.procedure builtin) →
            (eval scope (.list (.symbol head :: operands)) scopes).result =
                builtin.apply arguments ∧
              ∀ error, builtin.apply arguments = .error error → builtin.Raises error := by
  refine ⟨renamed_eval injective keepsDefine keepsIf scope expr scopes, ?_, ?_⟩
  · intro keyword _ changed value
    refine ⟨keywordRules scope _, ?_⟩
    intro known unread
    exact eval_define_keyword known changed value unread
  · intro head operands arguments between events builtin notDefine notIf evaluated resolved
    refine ⟨result_eval_call notDefine notIf evaluated resolved, ?_⟩
    intro error failed
    exact Builtin.raises_of_apply_eq_error failed

/-- A variable and a procedure exchange their names.  The variable is then at fault under the
name that the procedure had, and a bound keyword still is one. -/
theorem eval_rename_exchanged :
    let newName : String → String := Equiv.swap "x" "+"
    let scopes := (Scopes.empty.add none).define 0 "+" (.procedure .add)
    let expr : Expr :=
      .list [.symbol "+", .list [.symbol "define", .symbol "x", .boolean true], .list [.symbol "x"]]
    Function.Injective newName ∧ newName "define" = "define" ∧ newName "if" = "if" ∧
      (eval 0 expr scopes).result = .error (.notCallable "x") ∧
      (eval 0 (expr.rename newName) (scopes.rename newName)).result = .error (.notCallable "+") ∧
      0 < scopes.count ∧ "define" ∉ expr.reads ∧
      (eval 0 expr (scopes.define 0 "define" .null)).result = .error (.notCallable "x") ∧
      evalAll 0 [.null] scopes = { result := .ok [.null], scopes, events := [] } ∧
      scopes.lookup? 0 "+" = some (.procedure .add) ∧
      (eval 0 (.list [.symbol "+", .null]) scopes).result = .error (.wrongCount "+" 2 1) := by
  intro newName scopes expr
  have injective : Function.Injective newName := (Equiv.swap "x" "+").injective
  have keepsDefine : newName "define" = "define" := by decide
  have keepsIf : newName "if" = "if" := by decide
  have failed : (eval 0 expr scopes).result = .error (.notCallable "x") := by
    subst expr scopes
    cbv
  have known : 0 < scopes.count := by decide
  have unread : "define" ∉ expr.reads := by decide
  have evaluated : evalAll 0 [.null] scopes = { result := .ok [.null], scopes, events := [] } := rfl
  have resolved : scopes.lookup? 0 "+" = some (.procedure .add) := by
    rw [Scopes.lookup?_define "+" _ (by decide), if_pos rfl]
  obtain ⟨renamed, keyword, called⟩ := eval_rename injective keepsDefine keepsIf 0 expr scopes
  refine ⟨injective, keepsDefine, keepsIf, failed, ?_, known, unread, ?_, evaluated, resolved, ?_⟩
  · have exchanged : newName "x" = "+" := by decide
    rw [renamed, Outcome.rename, failed, Except.mapError, EvalError.rename, exchanged]
  · obtain ⟨-, unnoticed⟩ := keyword "define" (by simp) 0 .null
    rw [(unnoticed known unread).1, failed]
  · exact (called "+" [.null] _ _ _ _ (by decide) (by decide) evaluated resolved).1

end MiniLisp
