import MiniLisp.Reader
import MiniLisp.Value

/-!
# Errors of evaluation

A line fails for one of the causes listed here, each with what its text tells.
-/

namespace MiniLisp

/-- Why a line has no value. -/
inductive EvalError where
  | unreadable (error : ReadError)
  | undefined (name : String)
  | expectedProcedureName
  | expectedSymbol
  | wrongCount (form : String) (expected found : Nat)
  | conditionNotBoolean (found : Kind)
  | argumentNotNumber (builtin : Builtin) (found : Kind)
  | notCallable (name : String)
deriving DecidableEq

def EvalError.message : EvalError → String
  | .unreadable error => "syntax error: " ++ error.message
  | .undefined name => "undefined symbol: " ++ name
  | .expectedProcedureName => "syntax error: expected procedure name"
  | .expectedSymbol => "syntax error: expected symbol"
  | .wrongCount form expected found =>
      s!"syntax error: expected {expected} arguments to '{form}', found {found}"
  | .conditionNotBoolean found =>
      "type error: expected boolean condition, found " ++ found.name
  | .argumentNotNumber builtin found =>
      "type error: expected number argument to '" ++ builtin.symbol ++ "', found " ++ found.name
  | .notCallable name => "'" ++ name ++ "' is not callable"

end MiniLisp
