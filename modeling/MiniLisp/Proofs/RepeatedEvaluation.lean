import MiniLisp.Proofs.IndependentExpressions

/-!
# Evaluating an expression again

An expression whose `define` forms bind only names that it does not mention elsewhere reads
nothing of what it has bound.  Evaluated again, it ends as it did before and makes the same
definitions once more, in order, and these overwrite each name with the value that it already
has.  So the second evaluation changes nothing, also where both fail on the way.
-/

namespace MiniLisp

/-- After definitions a name is bound to the last value among them or, if there is none, to what
it was bound to before. -/
theorem getElem?_overwrite (definitions : List (String × Value)) (bindings : Bindings)
    (name : String) :
    (overwrite definitions bindings)[name]? =
      (definitions.reverse.lookup name).or bindings[name]? := by
  induction definitions generalizing bindings with
  | nil => rfl
  | cons entry definitions ih =>
      obtain ⟨defined, value⟩ := entry
      have first : overwrite ((defined, value) :: definitions) bindings =
          overwrite definitions (bindings.insert defined value) :=
        rfl
      rw [first, ih, List.reverse_cons, List.lookup_append, Option.or_assoc,
        Std.ExtTreeMap.getElem?_insert]
      refine congrArg (Option.or _) ?_
      simp only [Std.LawfulEqCmp.compare_eq_iff_eq, List.lookup_cons, List.lookup_nil]
      by_cases isName : name = defined
      · simp [isName]
      · simp [beq_false_of_ne isName, Ne.symm isName]

theorem overwrite_overwrite (definitions : List (String × Value)) (bindings : Bindings) :
    overwrite definitions (overwrite definitions bindings) = overwrite definitions bindings := by
  apply Std.ExtTreeMap.ext_getElem?
  intro name
  rw [getElem?_overwrite, getElem?_overwrite, ← Option.or_assoc, Option.or_self]

theorem Scopes.replay_replay (scope : ScopeId) (definitions : List (String × Value))
    (scopes : Scopes) :
    (scopes.replay scope definitions).replay scope definitions =
      scopes.replay scope definitions := by
  have first := overwritten_replay scope definitions scopes
  have second := overwritten_replay scope definitions (scopes.replay scope definitions)
  apply eq_of_getElem?_frames
  intro number
  by_cases own : number = scope
  · subst own
    rw [second.own, first.own, Option.map_map]
    refine congrArg (Option.map · _) (funext fun frame => ?_)
    exact congrArg (Frame.mk · frame.outer) (overwrite_overwrite definitions frame.bindings)
  · exact second.others number own

namespace Expr

mutual

/-- The symbols in an expression, but for those that stand where a `define` form has the name to
bind. -/
def mentions : Expr → List String
  | .symbol name => [name]
  | .list (.symbol head :: operands) =>
      head :: if head = "define" then mentionsPastTarget operands else mentionsOfAll operands
  | .list items => mentionsOfAll items
  | _ => []

/-- The symbols in the operands of a `define` form, but for the first operand if it is one. -/
def mentionsPastTarget : List Expr → List String
  | .symbol _ :: operands => mentionsOfAll operands
  | item :: operands => mentions item ++ mentionsOfAll operands
  | [] => []

def mentionsOfAll : List Expr → List String
  | [] => []
  | item :: items => mentions item ++ mentionsOfAll items

end

theorem mentionsOfAll_eq_flatMap (items : List Expr) :
    mentionsOfAll items = items.flatMap mentions := by
  induction items with
  | nil => rfl
  | cons item items ih => rw [mentionsOfAll, List.flatMap_cons, ih]

theorem mem_mentions_definition {name target : String} {body : Expr}
    (mentioned : name ∈ body.mentions) :
    name ∈ (Expr.list [.symbol "define", .symbol target, body]).mentions := by
  rw [mentions, if_pos rfl, mentionsPastTarget, mentionsOfAll_eq_flatMap, List.flatMap_singleton]
  exact List.mem_cons_of_mem _ mentioned

theorem mem_mentions_operand {name head : String} (notDefine : head ≠ "define")
    {operand : Expr} {operands : List Expr} (member : operand ∈ operands)
    (mentioned : name ∈ operand.mentions) :
    name ∈ (Expr.list (.symbol head :: operands)).mentions := by
  rw [mentions, if_neg notDefine, mentionsOfAll_eq_flatMap]
  exact List.mem_cons_of_mem _ (List.mem_flatMap.2 ⟨operand, member, mentioned⟩)

/-- What an expression reads it mentions. -/
theorem mem_mentions_of_mem_reads {expr : Expr} {name : String} (read : name ∈ expr.reads) :
    name ∈ expr.mentions := by
  induction expr using Expr.form_induction with
  | number value => simp [reads] at read
  | boolean value => simp [reads] at read
  | null => simp [reads] at read
  | symbol other => simpa only [reads_symbol, mentions] using read
  | refused items error refused =>
      rw [reads_refused refused] at read
      exact absurd read List.not_mem_nil
  | definition other body ih =>
      rw [reads_definition] at read
      exact mem_mentions_definition (ih read)
  | conditional condition consequent alternative ihCondition ihConsequent ihAlternative =>
      rw [reads_conditional, List.mem_append, List.mem_append] at read
      have notDefine : "if" ≠ "define" := by decide
      rcases read with read | read | read
      · exact mem_mentions_operand notDefine (by simp) (ihCondition read)
      · exact mem_mentions_operand notDefine (by simp) (ihConsequent read)
      · exact mem_mentions_operand notDefine (by simp) (ihAlternative read)
  | call head operands notDefine notIf ih =>
      rw [reads_call operands notDefine notIf, List.mem_append, List.mem_flatMap] at read
      rcases read with ⟨operand, member, read⟩ | isHead
      · exact mem_mentions_operand notDefine member (ih operand member read)
      · rw [mentions, List.mem_singleton.1 isHead]
        exact List.mem_cons_self

end Expr

/-- An expression that mentions no name that it defines ends a second time as it did the first
time, tells the same, and leaves all scopes as they then are. -/
theorem eval_again {expr : Expr}
    (unmentioned : ∀ name, .symbol name ∈ expr.targets → name ∉ expr.mentions)
    (scope : ScopeId) (scopes : Scopes) :
    (eval scope expr (eval scope expr scopes).scopes).result = (eval scope expr scopes).result ∧
      (eval scope expr (eval scope expr scopes).scopes).scopes =
        (eval scope expr scopes).scopes ∧
      (eval scope expr (eval scope expr scopes).scopes).events =
        (eval scope expr scopes).events := by
  have unread : ∀ name, .symbol name ∈ expr.targets → name ∉ expr.reads :=
    fun name target read => unmentioned name target (Expr.mem_mentions_of_mem_reads read)
  obtain ⟨sameResult, sameEvents⟩ := eval_after_eval unread scope scopes
  refine ⟨sameResult, ?_, sameEvents⟩
  calc (eval scope expr (eval scope expr scopes).scopes).scopes
      = (eval scope expr scopes).scopes.replay scope
          (Event.definitions (eval scope expr scopes).events) := by
        rw [definesIn_eval scope expr (eval scope expr scopes).scopes, sameEvents]
    _ = (eval scope expr scopes).scopes := by
        rw [definesIn_eval scope expr scopes, Scopes.replay_replay]

/-- An expression that defines one name twice and another inside a definition, and fails after
that. -/
theorem eval_again_failing :
    let expr : Expr :=
      .list [.symbol "f",
        .list [.symbol "define", .symbol "x", .list [.symbol "define", .symbol "y", .null]],
        .list [.symbol "define", .symbol "x", .boolean true], .symbol "u"]
    let scopes := Scopes.empty.add none
    let after := (eval 0 expr scopes).scopes
    (∀ name, .symbol name ∈ expr.targets → name ∉ expr.mentions) ∧
      (eval 0 expr scopes).result = .error (.undefined "u") ∧ after.names 0 = ["x", "y"] ∧
      (eval 0 expr after).result = .error (.undefined "u") ∧
      (eval 0 expr after).scopes = after := by
  intro expr scopes after
  have unmentioned : ∀ name, .symbol name ∈ expr.targets → name ∉ expr.mentions := by
    intro name target
    have isName : Expr.symbol name ∈ [.symbol "y", .symbol "x", .symbol "x"] := target
    simp only [List.mem_cons, List.not_mem_nil, or_false, Expr.symbol.injEq, or_self] at isName
    rcases isName with rfl | rfl
    · decide
    · decide
  have failed : (eval 0 expr scopes).result = .error (.undefined "u") := by
    subst expr scopes
    cbv
  have names : after.names 0 = ["x", "y"] := by
    subst after expr scopes
    cbv
  obtain ⟨sameResult, sameScopes, -⟩ := eval_again unmentioned 0 scopes
  exact ⟨unmentioned, failed, names, sameResult.trans failed, sameScopes⟩

end MiniLisp
