import MiniLisp.Interpreter
import MiniLisp.Proofs.EvaluationForms
import MiniLisp.Proofs.FlattenedTrees
import MiniLisp.Proofs.RecursiveDescent

/-!
# Levels of evaluation

Evaluation calls itself for each part of a form.  Here it is given a number of levels, and it
gives up where its calls would be nested deeper than that, as the recursive descent does.  Again
one call is stated with the calls nested in it left open.  A call leaves open only evaluations of
the items of its expression, so an expression needs at most one level more than its depth.

What has been read is not nested deeper than the limit allows.  So one level more than the limit
is enough both to read a line and to evaluate it, and what comes of it is what comes of it with
no bound on the levels.  Fewer levels are not enough for all of them.
-/

universe u

namespace MiniLisp

open Evaluation

/-- An evaluation that has no outcome if it gives up. -/
def Attempt (α : Type) : Type :=
  Scopes → Option (Outcome α)

namespace Attempt

variable {α β : Type}

def giveUp : Attempt α :=
  fun _ => none

def ofEvaluation (evaluation : Evaluation α) : Attempt α :=
  fun scopes => some (evaluation scopes)

def andThen (first : Attempt α) (continuation : α → Attempt β) : Attempt β :=
  fun scopes => do
    let before ← first scopes
    match before.result with
    | .error error =>
        return { result := .error error, scopes := before.scopes, events := before.events }
    | .ok value =>
        let after ← continuation value before.scopes
        return { after with events := before.events ++ after.events }

instance : Monad Attempt where
  pure value := ofEvaluation (pure value)
  bind := andThen

def ofOption : Option α → Attempt α
  | some value => pure value
  | none => giveUp

theorem pure_bind (value : α) (continuation : α → Attempt β) :
    pure value >>= continuation = continuation value := by
  funext scopes
  change (continuation value scopes).bind some = _
  rw [Option.bind_fun_some]

theorem ofOption_some_bind (value : α) (continuation : α → Attempt β) :
    ofOption (some value) >>= continuation = continuation value :=
  pure_bind value continuation

theorem ofEvaluation_bind (first : Evaluation α) (continuation : α → Evaluation β) :
    ofEvaluation (first >>= continuation) =
      ofEvaluation first >>= fun value => ofEvaluation (continuation value) := by
  funext scopes
  change some (first.andThen continuation scopes) = andThen _ _ scopes
  unfold Evaluation.andThen andThen ofEvaluation
  dsimp only [Option.bind_eq_bind, Option.bind_some]
  cases (first scopes).result <;> rfl

end Attempt

open Attempt

def evalOperands (nested : Expr → Attempt Value) : List Expr → Attempt (List Value)
  | [] => pure []
  | expr :: exprs => do
    let value ← nested expr
    let values ← evalOperands nested exprs
    return value :: values

def defineOnce (scope : ScopeId) (nested : Expr → Attempt Value) : List Expr → Attempt Value
  | [.symbol name, body] => do
    let value ← nested body
    ofEvaluation (define scope name value)
    return .null
  | [_, _] => ofEvaluation (fail .expectedSymbol)
  | operands => ofEvaluation (fail (.wrongCount "define" 2 operands.length))

def ifOnce (nested : Expr → Attempt Value) : List Expr → Attempt Value
  | [condition, consequent, alternative] => do
    match ← nested condition with
    | .boolean true => nested consequent
    | .boolean false => nested alternative
    | other => ofEvaluation (fail (.conditionNotBoolean other.kind))
  | operands => ofEvaluation (fail (.wrongCount "if" 3 operands.length))

/-- One call of evaluation, where the parts of the expression are evaluated by nested calls. -/
def evalOnce (scope : ScopeId) (nested : Expr → Attempt Value) : Expr → Attempt Value
  | .number value => pure (.number value)
  | .boolean value => pure (.boolean value)
  | .null => pure .null
  | .symbol name => ofEvaluation (resolve scope name)
  | .list (.symbol head :: operands) =>
      if head = "define" then defineOnce scope nested operands
      else if head = "if" then ifOnce nested operands
      else do
        let arguments ← evalOperands nested operands
        ofEvaluation (call scope head arguments)
  | .list _ => ofEvaluation (fail .expectedProcedureName)

/-- Evaluate an expression with calls that are nested at most so many levels deep. -/
def evalWithin (scope : ScopeId) : Nat → Expr → Attempt Value
  | 0 => fun _ => giveUp
  | levels + 1 => evalOnce scope (evalWithin scope levels)

/-- Evaluate a line with so many levels for reading it, and as many for its expression. -/
def evalLineWithin (levels : Nat) (scope : ScopeId) (line : String) : Attempt Value := do
  let tokens := tokenize line
  ofEvaluation (tell (.tokenized tokens))
  let read ← ofOption (readTokensWithin levels tokens)
  let expr ← ofEvaluation (ofExcept (read.mapError .unreadable))
  ofEvaluation (tell (.parsed expr))
  let value ← evalWithin scope levels expr
  ofEvaluation (tell (.evaluated value))
  return value

theorem evalOnce_refused (scope : ScopeId) (nested : Expr → Attempt Value) {items : List Expr}
    {error : EvalError} (refused : RefusedForm items error) :
    evalOnce scope nested (.list items) = ofEvaluation (fail error) := by
  cases refused with
  | head noSymbol =>
      rw [evalOnce]
      exact fun head operands shape => noSymbol head operands shape
  | target noSymbol =>
      rw [evalOnce, if_pos rfl, defineOnce]
      exact fun name shape => noSymbol name shape
  | definition count =>
      rw [evalOnce, if_pos rfl, defineOnce]
      · rintro name body rfl
        exact count rfl
      · rintro target body rfl
        exact count rfl
  | conditional count =>
      rw [evalOnce, if_neg (by decide), if_pos rfl, ifOnce]
      rintro condition consequent alternative rfl
      exact count rfl

theorem evalOnce_definition (scope : ScopeId) (nested : Expr → Attempt Value) (name : String)
    (body : Expr) :
    evalOnce scope nested (.list [.symbol "define", .symbol name, body]) = (do
      let value ← nested body
      ofEvaluation (define scope name value)
      return .null) := by
  rw [evalOnce, if_pos rfl, defineOnce]

theorem evalOnce_conditional (scope : ScopeId) (nested : Expr → Attempt Value)
    (condition consequent alternative : Expr) :
    evalOnce scope nested (.list [.symbol "if", condition, consequent, alternative]) = (do
      match ← nested condition with
      | .boolean true => nested consequent
      | .boolean false => nested alternative
      | other => ofEvaluation (fail (.conditionNotBoolean other.kind))) := by
  rw [evalOnce, if_neg (by decide), if_pos rfl, ifOnce]

theorem evalOnce_call (scope : ScopeId) (nested : Expr → Attempt Value) {head : String}
    (operands : List Expr) (notDefine : head ≠ "define") (notIf : head ≠ "if") :
    evalOnce scope nested (.list (.symbol head :: operands)) = (do
      let arguments ← evalOperands nested operands
      ofEvaluation (call scope head arguments)) := by
  rw [evalOnce, if_neg notDefine, if_neg notIf]

theorem evalOperands_congr {nested other : Expr → Attempt Value} {exprs : List Expr}
    (same : ∀ expr ∈ exprs, nested expr = other expr) :
    evalOperands nested exprs = evalOperands other exprs := by
  induction exprs with
  | nil => rfl
  | cons expr exprs ih =>
      rw [List.forall_mem_cons] at same
      rw [evalOperands, evalOperands, same.1, ih same.2]

/-- The only nested calls are for items of the expression. -/
theorem evalOnce_congr (scope : ScopeId) {nested other : Expr → Attempt Value} {expr : Expr}
    (same : ∀ items, expr = .list items → ∀ item ∈ items, nested item = other item) :
    evalOnce scope nested expr = evalOnce scope other expr := by
  induction expr using Expr.form_induction with
  | number value => rfl
  | boolean value => rfl
  | null => rfl
  | symbol name => rfl
  | refused items error refused =>
      rw [evalOnce_refused scope nested refused, evalOnce_refused scope other refused]
  | definition name body _ =>
      rw [evalOnce_definition, evalOnce_definition, same _ rfl body (by simp)]
  | conditional condition consequent alternative _ _ _ =>
      rw [evalOnce_conditional, evalOnce_conditional, same _ rfl condition (by simp),
        same _ rfl consequent (by simp), same _ rfl alternative (by simp)]
  | call head operands notDefine notIf _ =>
      have sameOperands : ∀ operand ∈ operands, nested operand = other operand :=
        fun operand member => same _ rfl operand (List.mem_cons_of_mem _ member)
      rw [evalOnce_call scope nested operands notDefine notIf,
        evalOnce_call scope other operands notDefine notIf, evalOperands_congr sameOperands]

theorem evalOperands_eval (scope : ScopeId) (exprs : List Expr) :
    evalOperands (fun part => ofEvaluation (eval scope part)) exprs =
      ofEvaluation (evalAll scope exprs) := by
  induction exprs with
  | nil =>
      rw [evalAll]
      rfl
  | cons expr exprs ih =>
      rw [evalAll, evalOperands, ih]
      simp only [ofEvaluation_bind]
      rfl

/-- Evaluation is one call whose nested calls are evaluation. -/
theorem evalOnce_eval (scope : ScopeId) (expr : Expr) :
    evalOnce scope (fun part => ofEvaluation (eval scope part)) expr =
      ofEvaluation (eval scope expr) := by
  induction expr using Expr.form_induction with
  | number value =>
      rw [eval]
      rfl
  | boolean value =>
      rw [eval]
      rfl
  | null =>
      rw [eval]
      rfl
  | symbol name =>
      rw [eval]
      rfl
  | refused items error refused => rw [evalOnce_refused scope _ refused, eval_refused scope refused]
  | definition name body _ =>
      rw [evalOnce_definition, eval_definition]
      simp only [ofEvaluation_bind]
      rfl
  | conditional condition consequent alternative _ _ _ =>
      rw [evalOnce_conditional, eval_conditional, ofEvaluation_bind]
      refine congrArg (bind _) (funext fun value => ?_)
      cases value with
      | boolean holds => cases holds <;> rfl
      | _ => rfl
  | call head operands notDefine notIf _ =>
      rw [evalOnce_call scope _ operands notDefine notIf, evalOperands_eval,
        eval_call scope operands notDefine notIf, ofEvaluation_bind]

theorem Expr.depth_lt_of_mem {item : Expr} {items : List Expr} (member : item ∈ items) :
    item.depth < (Expr.list items).depth := by
  rw [depth, Nat.lt_succ_iff]
  induction items with
  | nil => exact absurd member List.not_mem_nil
  | cons first items ih =>
      rw [depthOfAll]
      rcases List.mem_cons.1 member with rfl | further
      · exact Nat.le_max_left _ _
      · exact Nat.le_trans (ih further) (Nat.le_max_right _ _)

/-- One level more than the depth of an expression is enough to evaluate it. -/
theorem evalWithin_of_depth_lt {levels : Nat} {expr : Expr} (enough : expr.depth < levels)
    (scope : ScopeId) : evalWithin scope levels expr = ofEvaluation (eval scope expr) := by
  induction levels generalizing expr with
  | zero => exact absurd enough (Nat.not_lt_zero _)
  | succ levels ih =>
      -- One call is compared with one call of evaluation, and then the calls nested in them.
      rw [evalWithin, ← evalOnce_eval]
      apply evalOnce_congr
      rintro items rfl item member
      exact ih (Nat.lt_of_lt_of_le (Expr.depth_lt_of_mem member) (Nat.le_of_lt_succ enough))

theorem Expr.depth_ofWord (word : String) : (Expr.ofWord word).depth = 0 := by
  unfold ofWord
  repeat' split
  all_goals rfl

namespace TokenTree

/-- An expression is nested as deep as the tree of its tokens. -/
theorem depth_expr (tree : TokenTree) : tree.expr.depth = tree.depth := by
  induction tree using children_induction with
  | leaf token => exact Expr.depth_ofWord token.text
  | list children ih =>
      have same : Expr.depthOfAll (exprs children) = depthOfAll children := by
        induction children with
        | nil => rfl
        | cons child children ihChildren =>
            rw [List.forall_mem_cons] at ih
            rw [exprs, Expr.depthOfAll, depthOfAll, ih.1, ihChildren ih.2]
      rw [expr, Expr.depth, depth, same]

/-- A call with a call for its operand, and so on down to a leaf. -/
def callChain (head : AtomToken) : Nat → TokenTree
  | 0 => .leaf head
  | length + 1 => .list [.leaf head, callChain head length]

theorem depth_callChain (head : AtomToken) (length : Nat) :
    (callChain head length).depth = length := by
  induction length with
  | zero => rfl
  | succ length ih => simp [callChain, depth, depthOfAll, ih]

/-- As many calls inside one another as there are levels leave none for the innermost leaf. -/
theorem evalWithin_callChain {head : AtomToken} {name : String}
    (isName : Expr.ofWord head.text = .symbol name) (notDefine : name ≠ "define")
    (notIf : name ≠ "if") (scope : ScopeId) (levels : Nat) :
    evalWithin scope levels (callChain head levels).expr = giveUp := by
  induction levels with
  | zero => rfl
  | succ levels ih =>
      rw [callChain, expr, exprs, exprs, exprs, expr, isName, evalWithin,
        evalOnce_call scope _ _ notDefine notIf, evalOperands, ih]
      rfl

end TokenTree

theorem depth_le_of_read {σ : Type u} [Source σ String] {cursor : Cursor σ String} {expr : Expr}
    (read : cursor.read.1 = .ok expr) : expr.depth ≤ maxDepth := by
  obtain ⟨tree, -, rfl, shallow⟩ := Cursor.exists_tree_of_read read
  rw [tree.depth_expr]
  exact shallow

/-- With one level more than lists may be open, a line comes to what it comes to without a
bound. -/
theorem evalLineWithin_eq (scope : ScopeId) (line : String) :
    evalLineWithin (maxDepth + 1) scope line = ofEvaluation (evalLine scope line) := by
  unfold evalLineWithin evalLine
  dsimp only
  rw [ofEvaluation_bind, readTokensWithin_eq]
  refine congrArg (bind _) (funext fun _ => ?_)
  rw [ofOption_some_bind]
  cases read : readTokens (tokenize line) with
  | error error => rfl
  | ok expr =>
      have enough : expr.depth < maxDepth + 1 := Nat.lt_succ_of_le (depth_le_of_read read)
      change (pure expr >>= _) = ofEvaluation (pure expr >>= _)
      rw [Attempt.pure_bind, LawfulMonad.pure_bind, evalWithin_of_depth_lt enough]
      simp only [ofEvaluation_bind]
      rfl

theorem readTokens_flatten {tree : TokenTree} (shallow : tree.depth ≤ maxDepth) :
    readTokens tree.flatten = .ok tree.expr := by
  have toCome : (Cursor.ofSource tree.flatten).remaining = tree.flatten ++ [] := by
    rw [Cursor.remaining_ofSource, Source.toList_list, List.append_nil]
  exact (Cursor.read_of_flatten shallow toCome).1

/-- Fewer levels are too few, both for opening parentheses alone and for calls inside one another
that can be read. -/
theorem levels_needed {levels : Nat} (few : levels ≤ maxDepth) :
    (∃ tokens, readTokensWithin levels tokens = none) ∧
    ∃ tokens expr, readTokens tokens = .ok expr ∧
      ∀ scope, evalWithin scope levels expr = giveUp := by
  let head : AtomToken := { text := "f", notOpen := by decide, notClose := by decide }
  have isName : Expr.ofWord "f" = .symbol "f" := rfl
  have shallow : (TokenTree.callChain head levels).depth ≤ maxDepth := by
    rwa [TokenTree.depth_callChain]
  exact ⟨⟨_, readTokensWithin_replicate_open few⟩, _, _, readTokens_flatten shallow,
    fun scope => TokenTree.evalWithin_callChain isName (by decide) (by decide) scope levels⟩

/-- With 1025 levels the descent gives up on no tokens, and evaluation on nothing that has been
read, and both come to what they come to without a bound: the same expression or error at the
same place, and the same result, scopes and events.  So does a line as a whole.  With fewer levels
there are tokens that the descent gives up on, and an expression that can be read but not
evaluated. -/
theorem levels_suffice {σ : Type u} [Source σ String] (cursor : Cursor σ String) (scope : ScopeId)
    (scopes : Scopes) :
    (Reader.descend 1025 0 cursor).ending?.map (Prod.map id Cursor.eager) =
      some (cursor.read.map id Cursor.eager) ∧
    (∀ expr, cursor.read.1 = .ok expr →
      evalWithin scope 1025 expr scopes = some (eval scope expr scopes)) ∧
    (∀ line, evalLineWithin 1025 scope line scopes = some (evalLine scope line scopes)) ∧
    ∀ levels < 1025, (∃ tokens, readTokensWithin levels tokens = none) ∧
      ∃ tokens expr, readTokens tokens = .ok expr ∧
        ∀ scope, evalWithin scope levels expr = giveUp := by
  have enough : 1025 = maxDepth + 1 := rfl
  rw [enough]
  refine ⟨Reader.ending?_descend cursor, fun expr read => ?_, fun line => ?_, fun levels few => ?_⟩
  · rw [evalWithin_of_depth_lt (Nat.lt_succ_of_le (depth_le_of_read read))]
    rfl
  · rw [evalLineWithin_eq]
    rfl
  · exact levels_needed (Nat.le_of_lt_succ few)

/-- The tokens of a definition, and its expression in a scope that binds nothing. -/
theorem levels_suffice_definition :
    let cursor : Cursor (List String) String := .ofSource ["(", "define", "x", "null", ")"]
    let expr : Expr := .list [.symbol "define", .symbol "x", .null]
    let scopes := Scopes.empty.add none
    cursor.read.1 = .ok expr ∧
      (evalWithin 0 1025 expr scopes).map Outcome.result = some (.ok .null) := by
  intro cursor expr scopes
  let tree : TokenTree := .list [.leaf ⟨"define", by decide, by decide⟩,
    .leaf ⟨"x", by decide, by decide⟩, .leaf ⟨"null", by decide, by decide⟩]
  have isExpr : tree.expr = expr := rfl
  have toCome : cursor.remaining = tree.flatten ++ [] := Source.toList_list _
  have read : cursor.read.1 = .ok expr := by
    rw [← isExpr]
    exact (Cursor.read_of_flatten (by decide) toCome).1
  have defined : (eval 0 expr scopes).result = .ok .null := by
    subst expr scopes
    cbv
  refine ⟨read, ?_⟩
  rw [(levels_suffice cursor 0 scopes).2.1 expr read, Option.map_some, defined]

end MiniLisp
