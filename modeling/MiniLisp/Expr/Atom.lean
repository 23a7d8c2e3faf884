import MiniLisp.Expr.Basic
import MiniLisp.Number.Literal

/-!
# Atoms

A word that is no parenthesis is an atom: a number if it is a number literal,
one of the literals `true`, `false` and `null`, and otherwise the symbol that it
spells.
-/

namespace MiniLisp

/-- The atom that a word spells. -/
def Expr.ofWord (word : String) : Expr :=
  match Literal.number? word with
  | some value => .number value
  | none =>
    if word = "true" then .boolean true
    else if word = "false" then .boolean false
    else if word = "null" then .null
    else .symbol word

end MiniLisp
