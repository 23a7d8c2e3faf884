import MiniLisp.Console.Arguments
import MiniLisp.Console.Editor
import MiniLisp.Console.Texts
import MiniLisp.Interpreter
import MiniLisp.Text.Blank

/-!
# Sessions

With words among its arguments, the program evaluates them as one expression.
Without any it starts a session, which reads lines until there are no more, one of
them asks it to end, or one cannot be read.  Blank lines have no answer and leave no
trace.  Three words, alone on their line, are commands to the session, and every
other line is evaluated.

The history is loaded before the first line and saved after the last.  A session
that a line cannot be read in fails, and then nothing is saved.
-/

universe u

namespace MiniLisp

open LineEditor

inductive Command where
  | nothing
  | exit
  | help
  | environment
  | evaluate
deriving DecidableEq

/-- The command that a line gives, blank characters around it aside. -/
def Command.ofLine (line : String) : Command :=
  let word := trimBlank line.toList
  if word.isEmpty then .nothing
  else if word = ":exit".toList then .exit
  else if word = ":help".toList then .help
  else if word = ":env".toList then .environment
  else .evaluate

namespace Session

/-- What becomes of a session by a line. -/
inductive Turn (ω : Type u) where
  | goOn (interpreter : Interpreter) (world : ω)
  | finish (world : ω)

variable {ω : Type u} [LineEditor ω]

def writeLine (text : String) (world : ω) : ω :=
  write (text ++ "\n") world

/-- Evaluate a line and write its value with the kind, or its error. -/
def evaluate (interpreter : Interpreter) (line : String) (world : ω) : Interpreter × ω :=
  let outcome := interpreter.outcome line
  let text := match outcome.result with
    | .ok value => value.render
    | .error error => error.message
  (interpreter.leftBy outcome, writeLine text world)

def take (interpreter : Interpreter) (line : String) (world : ω) : Turn ω :=
  match Command.ofLine line with
  | .nothing => .goOn interpreter world
  | .exit => .finish (addEntry line world)
  | .help => .goOn interpreter (write Console.helpText (addEntry line world))
  | .environment =>
      .goOn interpreter
        (writeLine (" ".intercalate interpreter.names) (addEntry line world))
  | .evaluate =>
      let (interpreter, world) := evaluate interpreter line (addEntry line world)
      .goOn interpreter world

theorem size_le_of_take {interpreter after : Interpreter} {line : String} {world left : ω}
    (taken : take interpreter line world = .goOn after left) : size left ≤ size world := by
  have entered := size_addEntry_le line world
  unfold take at taken
  split at taken <;> cases taken
  · exact Nat.le_refl _
  all_goals exact Nat.le_trans (size_write_le _ _) entered

def converse (prompt : String) (interpreter : Interpreter) (world : ω) :
    Except String Unit × ω :=
  match _ : readLine prompt world with
  | (.interrupted, world) | (.endOfInput, world) => (.ok (), world)
  | (.failed cause, world) => (.error ("Readline err: " ++ cause), world)
  | (.line line, world) =>
    match _ : take interpreter line world with
    | .goOn interpreter world => converse prompt interpreter world
    | .finish world => (.ok (), world)
termination_by size world
decreasing_by exact Nat.lt_of_le_of_lt (size_le_of_take ‹_›) (size_lt_of_readLine ‹_›)

def run (arguments : Arguments) (home : Option String) (world : ω) : Except String Unit × ω :=
  match start world with
  | .error cause => (.error cause, world)
  | .ok world =>
    let path := arguments.historyPath home
    let begun := write Console.banner (path.elim world (loadHistory · world))
    match converse arguments.prompt Interpreter.start begun with
    | (.ok (), world) => (.ok (), path.elim world (saveHistory · world))
    | (.error cause, world) => (.error cause, world)

end Session

namespace Program

def run {ω : Type u} [LineEditor ω] (arguments : Arguments) (home : Option String)
    (world : ω) : Except String Unit × ω :=
  if arguments.words.isEmpty then Session.run arguments home world
  else (.ok (), (Session.evaluate Interpreter.start (" ".intercalate arguments.words) world).2)

def exitCode : Except String Unit → Nat
  | .ok () => 0
  | .error _ => 1

end Program

end MiniLisp
