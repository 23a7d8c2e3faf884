import MiniLisp.Number.Layout
import MiniLisp.Text.Written

/-!
# Expressions

An expression is an atom or a list of expressions.  The atoms are numbers, the
two truth values, null and symbols.  A list that is evaluated is called a form.
-/

namespace MiniLisp

inductive Expr where
  | list (items : List Expr)
  | symbol (name : String)
  | number (value : Float)
  | boolean (value : Bool)
  | null
deriving Inhabited

namespace Expr

/-- What holds of every atom, and of a list whenever it holds of its items, holds of
every expression. -/
@[elab_as_elim]
theorem items_induction {motive : Expr → Prop}
    (list : ∀ items, (∀ item ∈ items, motive item) → motive (.list items))
    (symbol : ∀ name, motive (.symbol name)) (number : ∀ value, motive (.number value))
    (boolean : ∀ value, motive (.boolean value)) (null : motive .null) :
    ∀ expr, motive expr
  | .list items =>
      list items fun item _ => items_induction list symbol number boolean null item
  | .symbol name => symbol name
  | .number value => number value
  | .boolean value => boolean value
  | .null => null

mutual

/-- The characters of a written expression.  Numbers have the plain layout, and
symbols are written as they are. -/
def characters : Expr → List Char
  | .list items => parenthesize (charactersOfAll items)
  | .symbol name => name.toList
  | .number value => NumberLayout.plain.write value
  | .boolean value => writeBoolean value
  | .null => "null".toList

def charactersOfAll : List Expr → List (List Char)
  | [] => []
  | item :: items => characters item :: charactersOfAll items

end

def text (expr : Expr) : String :=
  String.ofList expr.characters

mutual

/-- Whether two expressions are the same.  Their numbers are compared as numbers:
zeros of both signs are the same, and what is not a number differs from itself. -/
def same : Expr → Expr → Bool
  | .list items, .list others => sameAll items others
  | .symbol name, .symbol other => name == other
  | .number value, .number other => value == other
  | .boolean value, .boolean other => value == other
  | .null, .null => true
  | _, _ => false

def sameAll : List Expr → List Expr → Bool
  | [], [] => true
  | item :: items, other :: others => same item other && sameAll items others
  | _, _ => false

end

mutual

/-- How deep lists are nested in an expression: an atom has depth zero, and a
list is one deeper than its deepest item. -/
def depth : Expr → Nat
  | .list items => depthOfAll items + 1
  | .symbol _ => 0
  | .number _ => 0
  | .boolean _ => 0
  | .null => 0

def depthOfAll : List Expr → Nat
  | [] => 0
  | item :: items => max (depth item) (depthOfAll items)

end

end Expr

end MiniLisp
