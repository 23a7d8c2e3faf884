import MiniLisp.Proofs.EvaluationEffect
import MiniLisp.Proofs.ExpressionLeaves

/-!
# The names that an expression reads and those that it writes

Evaluation looks a name up where the name stands as an operand, or as the head of a call.
It does not look up the keyword at the head of a form, nor the name that a `define` form
binds.  The names looked up are among the symbols of the expression, and so are the targets
of its `define` forms.
-/

namespace MiniLisp

namespace Expr

mutual

/-- The names that evaluating an expression may look up. -/
def reads : Expr → List String
  | .symbol name => [name]
  | .list (.symbol head :: operands) =>
      if head = "define" then readsOfDefine operands
      else if head = "if" then readsOfIf operands
      else readsOfAll operands ++ [head]
  | _ => []

def readsOfDefine : List Expr → List String
  | [.symbol _, body] => reads body
  | _ => []

def readsOfIf : List Expr → List String
  | [condition, consequent, alternative] =>
      reads condition ++ (reads consequent ++ reads alternative)
  | _ => []

def readsOfAll : List Expr → List String
  | [] => []
  | expr :: exprs => reads expr ++ readsOfAll exprs

end

theorem readsOfAll_eq_flatMap (exprs : List Expr) : readsOfAll exprs = exprs.flatMap reads := by
  induction exprs with
  | nil => rfl
  | cons expr exprs ih => rw [readsOfAll, List.flatMap_cons, ih]

theorem reads_symbol (name : String) : (Expr.symbol name).reads = [name] := by
  rw [reads]

theorem reads_refused {items : List Expr} {error : EvalError}
    (refused : RefusedForm items error) : (Expr.list items).reads = [] := by
  cases refused with
  | head noSymbol =>
      rw [reads]
      · simp
      · intro head operands shape
        exact noSymbol head operands (Expr.list.inj shape)
  | target noSymbol =>
      rw [reads, if_pos rfl, readsOfDefine]
      intro name body shape
      exact noSymbol name (List.cons.inj shape).1
  | definition count =>
      rw [reads, if_pos rfl, readsOfDefine]
      rintro name body rfl
      exact count rfl
  | conditional count =>
      rw [reads, if_neg (by decide), if_pos rfl, readsOfIf]
      rintro condition consequent alternative rfl
      exact count rfl

theorem reads_definition (name : String) (body : Expr) :
    (Expr.list [.symbol "define", .symbol name, body]).reads = body.reads := by
  rw [reads, if_pos rfl, readsOfDefine]

theorem reads_conditional (condition consequent alternative : Expr) :
    (Expr.list [.symbol "if", condition, consequent, alternative]).reads =
      condition.reads ++ (consequent.reads ++ alternative.reads) := by
  rw [reads, if_neg (by decide), if_pos rfl, readsOfIf]

theorem reads_call {head : String} (operands : List Expr) (notDefine : head ≠ "define")
    (notIf : head ≠ "if") :
    (Expr.list (.symbol head :: operands)).reads = operands.flatMap reads ++ [head] := by
  rw [reads, if_neg notDefine, if_neg notIf, readsOfAll_eq_flatMap]

theorem mem_symbols_of_mem_reads {expr : Expr} {name : String} (read : name ∈ expr.reads) :
    name ∈ expr.symbols := by
  induction expr using Expr.form_induction with
  | number value => simp [reads] at read
  | boolean value => simp [reads] at read
  | null => simp [reads] at read
  | symbol other => simpa only [reads_symbol, symbols] using read
  | refused items error refused =>
      rw [reads_refused refused] at read
      exact absurd read List.not_mem_nil
  | definition other body ih =>
      rw [reads_definition] at read
      exact mem_symbols_list.2 ⟨body, by simp, ih read⟩
  | conditional condition consequent alternative ihCondition ihConsequent ihAlternative =>
      rw [reads_conditional, List.mem_append, List.mem_append] at read
      rw [mem_symbols_list]
      rcases read with read | read | read
      · exact ⟨condition, by simp, ihCondition read⟩
      · exact ⟨consequent, by simp, ihConsequent read⟩
      · exact ⟨alternative, by simp, ihAlternative read⟩
  | call head operands notDefine notIf ih =>
      rw [reads_call operands notDefine notIf, List.mem_append, List.mem_flatMap] at read
      rw [mem_symbols_list]
      rcases read with ⟨operand, member, read⟩ | isHead
      · exact ⟨operand, List.mem_cons_of_mem _ member, ih operand member read⟩
      · exact ⟨.symbol head, List.mem_cons_self, isHead⟩

theorem mem_symbols_of_mem_targets {expr : Expr} {name : String}
    (target : .symbol name ∈ expr.targets) : name ∈ expr.symbols := by
  induction expr using Expr.items_induction with
  | number value => cases target
  | boolean value => cases target
  | null => cases target
  | symbol other => cases target
  | list items ih =>
      rw [targets_list, List.mem_append, List.mem_flatMap, Option.mem_toList,
        Option.map_eq_some_iff] at target
      rw [mem_symbols_list]
      rcases target with ⟨item, member, target⟩ | ⟨⟨target, body⟩, found, isName⟩
      · exact ⟨item, member, ih item member target⟩
      · obtain rfl : items = [.symbol "define", target, body] :=
          Expr.list.inj (definition?_eq_some_iff.1 found)
        obtain rfl : target = .symbol name := isName
        exact ⟨.symbol name, by simp, List.mem_singleton_self name⟩

end Expr

end MiniLisp
