import MiniLisp.Expr.Basic
import MiniLisp.Value

/-!
# Events

An evaluation tells what happens in it as a sequence of events: the stages that
a line gets through, and the definitions and calls on the way.  Stages are told
at the level for debugging, definitions and calls only at the finer level for
tracing.
-/

namespace MiniLisp

inductive Level where
  | debug
  | trace
deriving DecidableEq

inductive Event where
  | tokenized (tokens : List String)
  | parsed (expr : Expr)
  | evaluated (value : Value)
  | defined (name : String) (value : Value)
  | applied (builtin : Builtin) (arguments : List Value)

def Level.name : Level → String
  | .debug => "DEBUG"
  | .trace => "TRACE"

/-- Whether what is told at a level is shown at a chosen one. -/
def Level.shows (chosen level : Level) : Bool :=
  match chosen, level with
  | .debug, .trace => false
  | _, _ => true

namespace Event

def level : Event → Level
  | .tokenized _ | .parsed _ | .evaluated _ => .debug
  | .defined _ _ | .applied _ _ => .trace

def message : Event → String
  | .tokenized tokens =>
      "tokenized tokens=" ++ String.ofList (bracket (tokens.map fun token => quote token.toList))
  | .parsed expr => "parsed expr=" ++ expr.text
  | .evaluated value => "evaluated value=" ++ value.shown
  | .defined name value => "define symbol=" ++ name ++ " value=" ++ value.shown
  | .applied builtin arguments =>
      "apply procedure=" ++ builtin.symbol ++ " args=" ++ Value.detailOfAll arguments

def text (event : Event) : String :=
  event.level.name ++ " " ++ event.message

/-- The lines of a log that is kept at a chosen level. -/
def log (chosen : Level) (events : List Event) : List String :=
  (events.filter fun event => chosen.shows event.level).map text

end Event

end MiniLisp
