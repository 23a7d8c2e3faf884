import Mathlib.Data.Set.Basic
import MiniLisp.Interpreter
import MiniLisp.Proofs.ReadNames
import MiniLisp.Proofs.ScopeChain

/-!
# Evaluation in scopes that agree

An evaluation learns about its scope only by looking names up, and only names that the
expression reads.  So two scopes that resolve those names alike cannot be told apart by
it: both evaluations end alike and tell the same events, and the scopes still agree.  How
many scopes lie around either, what they bind besides, and in which of them a name is
bound, makes no difference.  A definition may hide a binding on one side and replace it on
the other; seen from the scope itself it is the same.

The relation is between two runs, and is kept when evaluations follow one another.  For
lines it says that a nested scope can be replaced by a single one that binds what is
visible from it.
-/

namespace MiniLisp

/-- Two scopes, each among scopes of its own, that resolve some names alike. -/
structure Agreement (names : Set String) (scope other : ScopeId) (scopes others : Scopes) :
    Prop where
  known : scope < scopes.count
  otherKnown : other < others.count
  lookup? : ∀ name ∈ names, scopes.lookup? scope name = others.lookup? other name

variable {names : Set String} {scope other : ScopeId} {scopes others : Scopes}

theorem Agreement.define (agree : Agreement names scope other scopes others) (name : String)
    (value : Value) :
    Agreement names scope other (scopes.define scope name value)
      (others.define other name value) where
  known := by
    rw [Scopes.count_define]
    exact agree.known
  otherKnown := by
    rw [Scopes.count_define]
    exact agree.otherKnown
  lookup? := by
    intro later member
    rw [Scopes.lookup?_define name value agree.known,
      Scopes.lookup?_define name value agree.otherKnown, agree.lookup? later member]

/-- A new scope agrees with the one around it on every name. -/
theorem agreement_add {outer : ScopeId} (known : outer < scopes.count) :
    Agreement Set.univ scopes.count outer (scopes.add (some outer)) scopes where
  known := by
    rw [Scopes.count_add]
    exact Nat.lt_succ_self scopes.count
  otherKnown := known
  lookup? := by
    intro name _
    have around : (scopes.add (some outer)).outer? scopes.count = some outer := by
      rw [Scopes.outer?_add, if_pos rfl]
      simp [known]
    have sameChain : (scopes.add (some outer)).chain outer = scopes.chain outer := by
      apply Scopes.chain_congr
      intro number bound
      rw [Scopes.outer?_add, if_neg (Nat.ne_of_lt (Nat.lt_of_le_of_lt bound known))]
    rw [Scopes.lookup?_eq_findSome?, Scopes.chain_of_outer?_eq_some around, sameChain,
      List.findSome?_cons, Scopes.bindings_add, Scopes.bindings_of_count_le (Nat.le_refl _),
      Std.ExtTreeMap.getElem?_empty, Scopes.lookup?_eq_findSome?]
    simp only [Scopes.bindings_add]

namespace Evaluation

variable {α β : Type}

/-- Two evaluations that end alike, tell the same and leave scopes that agree, whenever
they start from scopes that do. -/
def Alike (names : Set String) (scope other : ScopeId) (first second : Evaluation α) : Prop :=
  ∀ scopes others, Agreement names scope other scopes others →
    (first scopes).result = (second others).result ∧
      (first scopes).events = (second others).events ∧
      Agreement names scope other (first scopes).scopes (second others).scopes

theorem alike_pure (value : α) :
    Alike names scope other (pure value : Evaluation α) (pure value) := by
  intro scopes others agree
  exact ⟨rfl, rfl, agree⟩

theorem alike_ofExcept (result : Except EvalError α) :
    Alike names scope other (ofExcept result) (ofExcept result) := by
  intro scopes others agree
  exact ⟨rfl, rfl, agree⟩

theorem alike_fail (error : EvalError) :
    Alike names scope other (fail error : Evaluation α) (fail error) :=
  alike_ofExcept _

theorem alike_tell (event : Event) : Alike names scope other (tell event) (tell event) := by
  intro scopes others agree
  exact ⟨rfl, rfl, agree⟩

theorem alike_define (name : String) (value : Value) :
    Alike names scope other (define scope name value) (define other name value) := by
  intro scopes others agree
  exact ⟨rfl, rfl, agree.define name value⟩

theorem alike_lookup? {name : String} (member : name ∈ names) :
    Alike names scope other (lookup? scope name) (lookup? other name) := by
  intro scopes others agree
  exact ⟨congrArg Except.ok (agree.lookup? name member), rfl, agree⟩

/-- Evaluations that follow alike ones, and are alike for every value, are alike. -/
theorem Alike.bind {first second : Evaluation α}
    {continuation otherContinuation : α → Evaluation β}
    (before : Alike names scope other first second)
    (after : ∀ value, Alike names scope other (continuation value) (otherContinuation value)) :
    Alike names scope other (first >>= continuation) (second >>= otherContinuation) := by
  intro scopes others agree
  obtain ⟨sameResult, sameEvents, still⟩ := before scopes others agree
  cases ended : first scopes with
  | mk result between events =>
      cases otherEnded : second others with
      | mk otherResult otherBetween otherEvents =>
          rw [ended, otherEnded] at sameResult sameEvents still
          obtain rfl : result = otherResult := sameResult
          obtain rfl : events = otherEvents := sameEvents
          cases result with
          | error error =>
              rw [bind_of_error ended, bind_of_error otherEnded]
              exact ⟨rfl, rfl, still⟩
          | ok value =>
              rw [bind_of_ok ended, bind_of_ok otherEnded]
              obtain ⟨laterResult, laterEvents, last⟩ := after value between otherBetween still
              exact ⟨laterResult, congrArg (events ++ ·) laterEvents, last⟩

theorem alike_resolve {name : String} (member : name ∈ names) :
    Alike names scope other (resolve scope name) (resolve other name) := by
  apply (alike_lookup? member).bind
  intro found
  cases found with
  | some value => exact alike_pure value
  | none => exact alike_fail _

theorem alike_call {name : String} (member : name ∈ names) (arguments : List Value) :
    Alike names scope other (call scope name arguments) (call other name arguments) := by
  apply (alike_lookup? member).bind
  intro found
  cases found with
  | none => exact alike_fail _
  | some value =>
      cases value with
      | procedure builtin => exact (alike_tell _).bind fun _ => alike_ofExcept _
      | _ => exact alike_fail _

theorem Alike.branch {consequent otherConsequent alternative otherAlternative : Evaluation Value}
    (consequents : Alike names scope other consequent otherConsequent)
    (alternatives : Alike names scope other alternative otherAlternative) (condition : Value) :
    Alike names scope other (branch condition consequent alternative)
      (MiniLisp.branch condition otherConsequent otherAlternative) := by
  cases condition with
  | boolean holds =>
      cases holds with
      | true => exact consequents
      | false => exact alternatives
  | _ => exact alike_fail _

end Evaluation

open Evaluation

theorem alike_evalAll {exprs : List Expr}
    (each : ∀ expr ∈ exprs, Alike names scope other (eval scope expr) (eval other expr)) :
    Alike names scope other (evalAll scope exprs) (evalAll other exprs) := by
  induction exprs with
  | nil =>
      rw [evalAll, evalAll]
      exact alike_pure _
  | cons expr exprs ih =>
      rw [evalAll, evalAll]
      apply (each expr List.mem_cons_self).bind
      intro value
      apply (ih fun later member => each later (List.mem_cons_of_mem _ member)).bind
      intro values
      exact alike_pure _

theorem alike_eval_of_reads {expr : Expr} (read : ∀ name ∈ expr.reads, name ∈ names) :
    Alike names scope other (eval scope expr) (eval other expr) := by
  induction expr using Expr.form_induction with
  | number value =>
      rw [eval, eval]
      exact alike_pure _
  | boolean value =>
      rw [eval, eval]
      exact alike_pure _
  | null =>
      rw [eval, eval]
      exact alike_pure _
  | symbol name =>
      rw [eval, eval]
      exact alike_resolve (read name (by simp [Expr.reads_symbol]))
  | refused items error refused =>
      rw [eval_refused scope refused, eval_refused other refused]
      exact alike_fail error
  | definition name body ih =>
      rw [Expr.reads_definition] at read
      rw [eval_definition, eval_definition]
      apply (ih read).bind
      intro value
      exact (alike_define name value).bind fun _ => alike_pure _
  | conditional condition consequent alternative ihCondition ihConsequent ihAlternative =>
      rw [Expr.reads_conditional] at read
      simp only [List.forall_mem_append] at read
      rw [eval_conditional, eval_conditional]
      apply (ihCondition read.1).bind
      exact (ihConsequent read.2.1).branch (ihAlternative read.2.2)
  | call head operands notDefine notIf ih =>
      rw [Expr.reads_call operands notDefine notIf, List.forall_mem_append] at read
      rw [eval_call scope operands notDefine notIf, eval_call other operands notDefine notIf]
      have readOperands : ∀ operand ∈ operands, ∀ name ∈ operand.reads, name ∈ names :=
        fun operand inside name isRead => read.1 name (List.mem_flatMap.2 ⟨operand, inside, isRead⟩)
      apply (alike_evalAll fun operand inside =>
        ih operand inside (readOperands operand inside)).bind
      exact alike_call (read.2 head (List.mem_singleton_self head))

theorem alike_eval {expr : Expr} (occur : ∀ name ∈ expr.symbols, name ∈ names) :
    Alike names scope other (eval scope expr) (eval other expr) :=
  alike_eval_of_reads fun name read => occur name (Expr.mem_symbols_of_mem_reads read)

theorem alike_evalLine (line : String) :
    Alike Set.univ scope other (evalLine scope line) (evalLine other line) := by
  apply (alike_tell _).bind
  intro _
  apply (alike_ofExcept _).bind
  intro expr
  apply (alike_tell _).bind
  intro _
  apply (alike_eval fun name _ => Set.mem_univ name).bind
  intro value
  exact (alike_tell _).bind fun _ => alike_pure _

namespace Scopes

/-- The bindings that can be seen along some scopes, where the nearer come first. -/
def overlaid (scopes : Scopes) (chain : List ScopeId) : Bindings :=
  chain.foldr (fun number further => further ∪ scopes.bindings number) ∅

theorem getElem?_overlaid (scopes : Scopes) (chain : List ScopeId) (name : String) :
    (scopes.overlaid chain)[name]? =
      chain.findSome? fun number => (scopes.bindings number)[name]? := by
  induction chain with
  | nil => exact Std.ExtTreeMap.getElem?_empty
  | cons number further ih =>
      rw [overlaid, List.foldr_cons, Std.ExtTreeMap.getElem?_union, List.findSome?_cons]
      change Option.or _ (scopes.overlaid further)[name]? = _
      rw [ih]
      cases (scopes.bindings number)[name]? <;> rfl

/-- A single scope that binds all that is visible from a scope. -/
def flattened (scopes : Scopes) (scope : ScopeId) : Scopes where
  frames := #[{ bindings := scopes.overlaid (scopes.chain scope), outer := none }]
  outer_lt := by
    intro number frame outer found around
    cases number with
    | zero =>
        simp only [List.getElem?_toArray, List.getElem?_cons_zero, Option.some.injEq] at found
        subst found
        cases around
    | succ number => simp at found

theorem getElem?_bindings_flattened (scopes : Scopes) (scope : ScopeId) (name : String) :
    ((scopes.flattened scope).bindings 0)[name]? = scopes.lookup? scope name := by
  rw [lookup?_eq_findSome?]
  exact getElem?_overlaid scopes (scopes.chain scope) name

theorem lookup?_of_outer?_eq_none {scopes : Scopes} {scope : ScopeId}
    (outermost : scopes.outer? scope = none) (name : String) :
    scopes.lookup? scope name = (scopes.bindings scope)[name]? := by
  rw [lookup?_eq_findSome?, chain_of_outer?_eq_none outermost, List.findSome?_singleton]

end Scopes

/-- What is seen of the evaluation of a line from outside. -/
def Outcome.seen {α : Type} (outcome : Outcome α) : Except EvalError α × List Event :=
  (outcome.result, outcome.events)

theorem seen_outcomes_of_agreement (lines : List String)
    (agree : Agreement Set.univ scope other scopes others) :
    (Interpreter.outcomes { scopes, scope } lines).map Outcome.seen =
      (Interpreter.outcomes { scopes := others, scope := other } lines).map Outcome.seen := by
  induction lines generalizing scopes others with
  | nil => rfl
  | cons line lines ih =>
      obtain ⟨sameResult, sameEvents, still⟩ := alike_evalLine line scopes others agree
      rw [Interpreter.outcomes, Interpreter.outcomes, List.map_cons, List.map_cons]
      exact congrArg₂ List.cons (Prod.ext sameResult sameEvents) (ih still)

/-- Evaluating an expression in two scopes that agree on its symbols, and on whatever other
names, gives the same result and the same definitions, and they agree on these names
afterwards.  So lines give in a nested scope what they give in a scope inside none that
binds what is visible from it, and there is such a scope. -/
theorem eval_of_agreement {expr : Expr} (occur : ∀ name ∈ expr.symbols, name ∈ names)
    (agree : Agreement names scope other scopes others) :
    (eval scope expr scopes).result = (eval other expr others).result ∧
      (eval scope expr scopes).events = (eval other expr others).events ∧
      Agreement names scope other (eval scope expr scopes).scopes
        (eval other expr others).scopes ∧
      (∀ single alone, alone < single.count → single.outer? alone = none →
        (∀ name, (single.bindings alone)[name]? = scopes.lookup? scope name) →
        ∀ lines, (Interpreter.outcomes { scopes, scope } lines).map Outcome.seen =
          (Interpreter.outcomes { scopes := single, scope := alone } lines).map
            Outcome.seen) ∧
      ∃ single : Scopes, single.count = 1 ∧ single.outer? 0 = none ∧
        ∀ name, (single.bindings 0)[name]? = scopes.lookup? scope name := by
  obtain ⟨sameResult, sameEvents, still⟩ := alike_eval occur scopes others agree
  refine ⟨sameResult, sameEvents, still, ?_, ?_⟩
  · intro single alone known outermost visible lines
    apply seen_outcomes_of_agreement lines
    refine ⟨agree.known, known, fun name _ => ?_⟩
    rw [Scopes.lookup?_of_outer?_eq_none outermost, visible]
  · exact ⟨scopes.flattened scope, rfl, rfl, scopes.getElem?_bindings_flattened scope⟩

/-- A definition hides a built-in procedure on one side and replaces it on the other. -/
theorem eval_of_agreement_hiding :
    let expr : Expr := .list [.symbol "define", .symbol "+", .boolean true]
    let root := Interpreter.start.scopes
    let nested := root.add (some 0)
    (∀ name ∈ expr.symbols, name ∈ (Set.univ : Set String)) ∧
      Agreement Set.univ root.count 0 nested root ∧
      (eval root.count expr nested).result = (eval 0 expr root).result ∧
      Agreement Set.univ root.count 0 (eval root.count expr nested).scopes
        (eval 0 expr root).scopes := by
  intro expr root nested
  have occur : ∀ name ∈ expr.symbols, name ∈ (Set.univ : Set String) :=
    fun name _ => Set.mem_univ name
  have known : 0 < root.count := by decide +kernel
  have agree := agreement_add known
  obtain ⟨sameResult, _, still, _⟩ := eval_of_agreement occur agree
  exact ⟨occur, agree, sameResult, still⟩

end MiniLisp
