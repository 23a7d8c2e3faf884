import MiniLisp.Proofs.ExecutedDefinitions
import MiniLisp.Proofs.ReadingOutcome

/-!
# What evaluation does to scopes

The definitions that an evaluation tells are all that it does.  They overwrite, in order,
what its own scope binds; the scopes around it and beside it stay as they are.  This is
so whether the evaluation comes to a result or to an error, and an error only cuts the
definitions short: those completed before it stay.

Each definition told is one execution of a `define` form in the expression, and the forms
are executed in the order in which they end.  So the names defined are, in order, among
the targets of these forms, and without such a form nothing changes.
-/

namespace MiniLisp

namespace Expr

mutual

/-- An expression and the expressions in it at any depth, each after those in it. -/
def parts : Expr → List Expr
  | .list items => partsOfAll items ++ [.list items]
  | expr => [expr]

def partsOfAll : List Expr → List Expr
  | [] => []
  | item :: items => parts item ++ partsOfAll items

end

/-- The two operands of a `define` form that has two. -/
def definition? : Expr → Option (Expr × Expr)
  | .list [.symbol head, target, body] => if head = "define" then some (target, body) else none
  | _ => none

/-- The operands of the `define` forms with two operands in an expression. -/
def definitionForms (expr : Expr) : List (Expr × Expr) :=
  expr.parts.filterMap definition?

def targets (expr : Expr) : List Expr :=
  expr.definitionForms.map Prod.fst

theorem partsOfAll_eq_flatMap (items : List Expr) : partsOfAll items = items.flatMap parts := by
  induction items with
  | nil => rfl
  | cons item items ih => rw [partsOfAll, List.flatMap_cons, ih]

theorem mem_parts_self (expr : Expr) : expr ∈ expr.parts := by
  cases expr <;> simp [parts]

theorem parts_subset_list {item : Expr} {items : List Expr} (member : item ∈ items) :
    item.parts ⊆ (Expr.list items).parts := by
  intro part isPart
  rw [parts, partsOfAll_eq_flatMap]
  exact List.mem_append_left _ (List.mem_flatMap.2 ⟨item, member, isPart⟩)

theorem definition?_eq_some_iff {expr target body : Expr} :
    expr.definition? = some (target, body) ↔ expr = .list [.symbol "define", target, body] := by
  constructor
  · intro found
    unfold definition? at found
    split at found
    · next head first second =>
      split at found
      · next isDefine =>
        cases found
        rw [isDefine]
      · cases found
    · cases found
  · rintro rfl
    simp [definition?]

theorem mem_definitionForms_iff {expr target body : Expr} :
    (target, body) ∈ expr.definitionForms ↔
      .list [.symbol "define", target, body] ∈ expr.parts := by
  simp only [definitionForms, List.mem_filterMap, definition?_eq_some_iff, exists_eq_right]

theorem targets_list (items : List Expr) :
    (Expr.list items).targets =
      items.flatMap targets ++ ((Expr.list items).definition?.map Prod.fst).toList := by
  rw [targets, definitionForms, parts, List.filterMap_append, List.map_append,
    partsOfAll_eq_flatMap, List.filterMap_flatMap, List.map_flatMap]
  refine congrArg (items.flatMap targets ++ ·) ?_
  cases found : (Expr.list items).definition? <;> simp [found]

theorem targets_symbol (name : String) : (Expr.symbol name).targets = [] :=
  rfl

theorem targets_definition (name : String) (body : Expr) :
    (Expr.list [.symbol "define", .symbol name, body]).targets =
      body.targets ++ [.symbol name] := by
  simp [targets_list, targets_symbol, definition?]

theorem sublist_targets_list (items : List Expr) :
    (items.flatMap targets).Sublist (Expr.list items).targets := by
  rw [targets_list]
  exact List.sublist_append_left _ _

end Expr

theorem sublist_executionsOfAll {scope : ScopeId} {exprs : List Expr}
    (each : ∀ expr ∈ exprs, ∀ scopes,
      ((executions scope scopes expr).map fun entry => Expr.symbol entry.1).Sublist expr.targets)
    (scopes : Scopes) :
    ((executionsOfAll scope scopes exprs).map fun entry => Expr.symbol entry.1).Sublist
      (exprs.flatMap Expr.targets) := by
  induction exprs generalizing scopes with
  | nil =>
      rw [executionsOfAll]
      exact List.nil_sublist _
  | cons expr exprs ih =>
      rw [executionsOfAll, List.map_append, List.flatMap_cons]
      apply (each expr List.mem_cons_self scopes).append
      split
      · exact ih (fun later member => each later (List.mem_cons_of_mem _ member)) _
      · exact List.nil_sublist _

/-- The names that an expression defines are, in order, among the targets of its `define`
forms. -/
theorem sublist_executions (scope : ScopeId) (expr : Expr) (scopes : Scopes) :
    ((executions scope scopes expr).map fun entry => Expr.symbol entry.1).Sublist
      expr.targets := by
  induction expr using Expr.form_induction generalizing scopes with
  | number value => rw [executions] <;> simp
  | boolean value => rw [executions] <;> simp
  | null => rw [executions] <;> simp
  | symbol name => rw [executions] <;> simp
  | refused items error refused =>
      rw [executions_refused scope scopes refused]
      exact List.nil_sublist _
  | definition name body ih =>
      rw [executions, if_pos rfl, executionsOfDefine, List.map_append, Expr.targets_definition]
      apply (ih scopes).append
      split
      · exact List.Sublist.refl _
      · exact List.nil_sublist _
  | conditional condition consequent alternative ihCondition ihConsequent ihAlternative =>
      rw [executions, if_neg (by decide), if_pos rfl, executionsOfIf, List.map_append]
      refine List.Sublist.trans ?_ (Expr.sublist_targets_list _)
      simp only [List.flatMap_cons, Expr.targets_symbol, List.nil_append, List.flatMap_nil,
        List.append_nil]
      apply (ihCondition scopes).append
      split
      · exact (ihConsequent _).trans (List.sublist_append_left _ _)
      · exact (ihAlternative _).trans (List.sublist_append_right _ _)
      · exact List.nil_sublist _
  | call head operands notDefine notIf ih =>
      rw [executions, if_neg notDefine, if_neg notIf]
      refine List.Sublist.trans ?_ (Expr.sublist_targets_list _)
      rw [List.flatMap_cons, Expr.targets_symbol, List.nil_append]
      exact sublist_executionsOfAll ih scopes

/-- An expression defines only targets of its `define` forms. -/
theorem mem_targets_of_mem_definitions {scope : ScopeId} {expr : Expr} {scopes : Scopes}
    {entry : String × Value}
    (told : entry ∈ Event.definitions (eval scope expr scopes).events) :
    .symbol entry.1 ∈ expr.targets := by
  rw [definitions_eval] at told
  exact (sublist_executions scope expr scopes).subset (List.mem_map_of_mem told)

/-- Bindings with definitions made in them, one after another. -/
def overwrite (definitions : List (String × Value)) (bindings : Bindings) : Bindings :=
  definitions.foldl (fun bindings entry => bindings.insert entry.1 entry.2) bindings

namespace Scopes

/-- Scopes that differ from those before only by definitions in one of them. -/
structure Overwritten (scope : ScopeId) (definitions : List (String × Value))
    (before after : Scopes) : Prop where
  own : after.frames[scope]? = before.frames[scope]?.map fun frame =>
    { frame with bindings := overwrite definitions frame.bindings }
  others : ∀ other, other ≠ scope → after.frames[other]? = before.frames[other]?

theorem Overwritten.refl (scope : ScopeId) (scopes : Scopes) :
    Overwritten scope [] scopes scopes where
  own := by
    cases scopes.frames[scope]? <;> rfl
  others := fun _ _ => rfl

theorem Overwritten.trans {scope : ScopeId} {definitions later : List (String × Value)}
    {before between after : Scopes} (first : Overwritten scope definitions before between)
    (second : Overwritten scope later between after) :
    Overwritten scope (definitions ++ later) before after where
  own := by
    rw [second.own, first.own, Option.map_map]
    refine congrArg (Option.map · _) (funext fun frame => ?_)
    simp [overwrite]
  others := by
    intro other differs
    rw [second.others other differs, first.others other differs]

theorem overwritten_define (scope : ScopeId) (name : String) (value : Value) (scopes : Scopes) :
    Overwritten scope [(name, value)] scopes (scopes.define scope name value) where
  own := by
    simp only [define, Array.getElem?_modify, if_pos]
    rfl
  others := by
    intro other differs
    simp only [define, Array.getElem?_modify, if_neg differs.symm]

theorem overwritten_replay (scope : ScopeId) (definitions : List (String × Value))
    (scopes : Scopes) :
    Overwritten scope definitions scopes (scopes.replay scope definitions) := by
  induction definitions generalizing scopes with
  | nil => exact .refl scope scopes
  | cons entry definitions ih =>
      exact (overwritten_define scope entry.1 entry.2 scopes).trans (ih _)

end Scopes

namespace Interpreter

def after (interpreter : Interpreter) (lines : List String) : Interpreter :=
  lines.foldl (fun interpreter line => interpreter.leftBy (interpreter.outcome line)) interpreter

def events (interpreter : Interpreter) (lines : List String) : List Event :=
  (interpreter.outcomes lines).flatMap Outcome.events

theorem after_eq_replay (interpreter : Interpreter) (lines : List String) :
    interpreter.after lines =
      { interpreter with
        scopes := interpreter.scopes.replay interpreter.scope
          (Event.definitions (interpreter.events lines)) } := by
  induction lines generalizing interpreter with
  | nil => rfl
  | cons line lines ih =>
      let outcome := interpreter.outcome line
      have first : outcome.scopes =
          interpreter.scopes.replay interpreter.scope (Event.definitions outcome.events) :=
        definesIn_evalLine interpreter.scope line interpreter.scopes
      have told : interpreter.events (line :: lines) =
          outcome.events ++ (interpreter.leftBy outcome).events lines :=
        rfl
      rw [told, Event.definitions_append, Scopes.replay_append, ← first]
      exact ih (interpreter.leftBy outcome)

end Interpreter

theorem scopes_evalLine_of_unreadable (scope : ScopeId) (scopes : Scopes) {line : String}
    {error : ReadError} (unreadable : readTokens (tokenize line) = .error error) :
    (evalLine scope line scopes).scopes = scopes := by
  have nothing : executionsOfLine scope scopes line = [] := by
    rw [executionsOfLine, unreadable]
  rw [definesIn_evalLine scope line scopes, definitions_evalLine, nothing]
  rfl

/-- What evaluating an expression in a scope does, with a result or with an error. -/
structure EvaluationEffect (scope : ScopeId) (scopes : Scopes) (expr : Expr) : Prop where
  /-- The scope is overwritten by the definitions told, and no other scope is touched. -/
  overwritten : Scopes.Overwritten scope (Event.definitions (eval scope expr scopes).events)
    scopes (eval scope expr scopes).scopes
  /-- Those are the definitions completed before the evaluation ended. -/
  completed : Event.definitions (eval scope expr scopes).events = executions scope scopes expr
  target : ∀ entry ∈ Event.definitions (eval scope expr scopes).events,
    ∃ body, .list [.symbol "define", .symbol entry.1, body] ∈ expr.parts
  count_le : (Event.definitions (eval scope expr scopes).events).length ≤
    expr.definitionForms.length
  unchanged : expr.definitionForms = [] → (eval scope expr scopes).scopes = scopes

theorem evaluationEffect (scope : ScopeId) (scopes : Scopes) (expr : Expr) :
    EvaluationEffect scope scopes expr := by
  have told := definitions_eval scope expr scopes
  have names := sublist_executions scope expr scopes
  have bound : (executions scope scopes expr).length ≤ expr.definitionForms.length := by
    simpa only [Expr.targets, List.length_map] using names.length_le
  have replayed := definesIn_eval scope expr scopes
  refine ⟨?_, told, ?_, ?_, ?_⟩
  · rw [replayed]
    exact Scopes.overwritten_replay scope _ scopes
  · intro entry member
    obtain ⟨⟨target, body⟩, isForm, isName⟩ :=
      List.mem_map.1 (mem_targets_of_mem_definitions member)
    obtain rfl : target = .symbol entry.1 := isName
    exact ⟨body, Expr.mem_definitionForms_iff.1 isForm⟩
  · rw [told]
    exact bound
  · intro noForms
    rw [noForms] at bound
    rw [replayed, told, List.eq_nil_of_length_eq_zero (Nat.le_zero.1 bound)]
    rfl

/-- Of three operands the second fails: the definition before it stays, and the one after it
is not made. -/
example :
    Event.definitions (eval 0
      (.list [.symbol "f", .list [.symbol "define", .symbol "x", .null], .symbol "y",
        .list [.symbol "define", .symbol "z", .null]]) (Scopes.empty.add none)).events =
      [("x", .null)] := by
  cbv

/-- Evaluation acts on scopes by its definitions alone: those of an expression are completed
`define` forms of it, made in the scope of the evaluation; a line that cannot be read makes
none; and what a sequence of lines leaves is what all the definitions told on the way make
of the scopes there were. -/
theorem effect_of_evaluation :
    (∀ scope scopes expr, EvaluationEffect scope scopes expr) ∧
      (∀ scope scopes line error, readTokens (tokenize line) = .error error →
        (evalLine scope line scopes).scopes = scopes) ∧
      ∀ (interpreter : Interpreter) (lines : List String),
        (interpreter.after lines).scope = interpreter.scope ∧
          Scopes.Overwritten interpreter.scope
            (Event.definitions (interpreter.events lines)) interpreter.scopes
            (interpreter.after lines).scopes := by
  refine ⟨evaluationEffect, ?_, ?_⟩
  · intro scope scopes line error unreadable
    exact scopes_evalLine_of_unreadable scope scopes unreadable
  · intro interpreter lines
    rw [Interpreter.after_eq_replay]
    exact ⟨rfl, Scopes.overwritten_replay _ _ _⟩

/-- A keyword that is only an operand defines nothing, and neither does a form after the
token that makes reading fail. -/
theorem effect_of_evaluation_idle :
    let root := Interpreter.start.scopes
    let expr : Expr := .list [.symbol "+", .symbol "define", .boolean true]
    let line := ") (define x 1)"
    expr.definitionForms = [] ∧ (eval 0 expr root).scopes = root ∧
      readTokens (tokenize line) = .error .unexpectedClose ∧
      (evalLine 0 line root).scopes = root := by
  intro root expr line
  have noForms : expr.definitionForms = [] := rfl
  have unreadable : readTokens (tokenize line) = .error .unexpectedClose := by
    have tokens : tokenize line = [")", "(", "define", "x", "1", ")"] := by decide +kernel
    rw [readTokens_eq_outcome, tokens]
    rfl
  exact ⟨noForms, (effect_of_evaluation.1 0 root expr).unchanged noForms, unreadable,
    effect_of_evaluation.2.1 0 root line _ unreadable⟩

end MiniLisp
