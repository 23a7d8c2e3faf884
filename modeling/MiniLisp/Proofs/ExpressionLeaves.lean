import MiniLisp.Expr.Basic

/-!
# The leaves of an expression

The symbols and the numbers that occur in an expression, at any depth.  What is true of
the leaves of a list is true of the leaves of its items, and its depth is one more than
a bound on theirs.
-/

namespace MiniLisp

namespace Expr

mutual

/-- The symbols that occur in an expression, from the left. -/
def symbols : Expr → List String
  | .list items => symbolsOfAll items
  | .symbol name => [name]
  | _ => []

def symbolsOfAll : List Expr → List String
  | [] => []
  | item :: items => symbols item ++ symbolsOfAll items

end

mutual

def numbers : Expr → List Float
  | .list items => numbersOfAll items
  | .number value => [value]
  | _ => []

def numbersOfAll : List Expr → List Float
  | [] => []
  | item :: items => numbers item ++ numbersOfAll items

end

theorem symbolsOfAll_eq_flatMap (items : List Expr) :
    symbolsOfAll items = items.flatMap symbols := by
  induction items with
  | nil => rfl
  | cons item items ih => rw [symbolsOfAll, List.flatMap_cons, ih]

theorem numbersOfAll_eq_flatMap (items : List Expr) :
    numbersOfAll items = items.flatMap numbers := by
  induction items with
  | nil => rfl
  | cons item items ih => rw [numbersOfAll, List.flatMap_cons, ih]

theorem mem_symbols_list {name : String} {items : List Expr} :
    name ∈ (Expr.list items).symbols ↔ ∃ item ∈ items, name ∈ item.symbols := by
  rw [symbols, symbolsOfAll_eq_flatMap, List.mem_flatMap]

theorem mem_numbers_list {value : Float} {items : List Expr} :
    value ∈ (Expr.list items).numbers ↔ ∃ item ∈ items, value ∈ item.numbers := by
  rw [numbers, numbersOfAll_eq_flatMap, List.mem_flatMap]

/-- What holds of every symbol in a list is what holds of those in each item. -/
theorem forall_mem_symbols_list {holds : String → Prop} {items : List Expr} :
    (∀ name ∈ (Expr.list items).symbols, holds name) ↔
      ∀ item ∈ items, ∀ name ∈ item.symbols, holds name := by
  simp only [mem_symbols_list]
  constructor
  · intro every item member name occurs
    exact every name ⟨item, member, occurs⟩
  · rintro every name ⟨item, member, occurs⟩
    exact every item member name occurs

theorem forall_mem_numbers_list {holds : Float → Prop} {items : List Expr} :
    (∀ value ∈ (Expr.list items).numbers, holds value) ↔
      ∀ item ∈ items, ∀ value ∈ item.numbers, holds value := by
  simp only [mem_numbers_list]
  constructor
  · intro every item member value occurs
    exact every value ⟨item, member, occurs⟩
  · rintro every value ⟨item, member, occurs⟩
    exact every item member value occurs

end Expr

end MiniLisp
