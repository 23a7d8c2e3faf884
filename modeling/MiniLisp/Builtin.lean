/-!
# Built-in procedures

Four procedures of arithmetic are built in.  Each has the symbol that it is
bound to at the start, and an operation on doubles; dividing by zero gives an
infinity or something that is not a number, and is no error.
-/

namespace MiniLisp

inductive Builtin where
  | add
  | subtract
  | multiply
  | divide
deriving DecidableEq

namespace Builtin

/-- The built-in procedures, in the order in which they are bound. -/
def all : List Builtin :=
  [.add, .subtract, .multiply, .divide]

/-- The symbol that a procedure is bound to at the start, by which it also shows. -/
def symbol : Builtin → String
  | .add => "+"
  | .subtract => "-"
  | .multiply => "*"
  | .divide => "/"

/-- The word for a procedure in a detailed value. -/
def detail : Builtin → String
  | .add => "Add"
  | .subtract => "Sub"
  | .multiply => "Mul"
  | .divide => "Div"

def operation : Builtin → Float → Float → Float
  | .add => fun left right => left + right
  | .subtract => fun left right => left - right
  | .multiply => fun left right => left * right
  | .divide => fun left right => left / right

theorem mem_all (builtin : Builtin) : builtin ∈ all := by
  cases builtin <;> decide

theorem symbol_injective {builtin other : Builtin} (same : builtin.symbol = other.symbol) :
    builtin = other := by
  cases builtin <;> cases other <;> simp_all [symbol]

end Builtin

end MiniLisp
