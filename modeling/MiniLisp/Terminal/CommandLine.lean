import MiniLisp.Console.Arguments
import MiniLisp.Console.Texts

/-!
# Command lines

Arguments as they are given are options first, and then the words of an expression.

* `--history PATH` names the file of the history, and `--no-history` says that
  there is none.
* `--prompt TEXT` gives the text to write before each line is read.
* `--version` (or `-V`) and `--help` (or `-h`) ask for nothing but information.

The value of an option may also follow it after an equals sign.  The words begin
with the first argument that is no option, which may be an unknown one, or after
a separator `--`.  From there on all arguments are words.

Each option may be given once.  The value of an option is missing if there is no
next argument or if it is an option or the separator.
-/

namespace MiniLisp

inductive OptionName where
  | history
  | noHistory
  | prompt
  | version
  | help
deriving DecidableEq

namespace OptionName

def long : List (String × OptionName) :=
  [("history", .history), ("no-history", .noHistory), ("prompt", .prompt),
    ("version", .version), ("help", .help)]

def short : List (Char × OptionName) :=
  [('V', .version), ('h', .help)]

end OptionName

/-- What an argument reads as, as long as there have been no words. -/
inductive Argument where
  | option (name : OptionName) (attached : Option String)
  | separator
  | word
deriving DecidableEq

namespace Argument

def ofLong (characters : List Char) : Argument :=
  let name := String.ofList (characters.takeWhile (· != '='))
  match OptionName.long.lookup name, characters.dropWhile (· != '=') with
  | some name, [] => .option name none
  | some name, _ :: attached => .option name (some (String.ofList attached))
  | none, _ => .word

/-- What the characters after one dash read as: an option if all of them are
letters of options. -/
def ofShort (characters : List Char) : Argument :=
  match characters.mapM fun char => OptionName.short.lookup char with
  | some (name :: _) => .option name none
  | _ => .word

def ofString (argument : String) : Argument :=
  match argument.toList with
  | ['-', '-'] => .separator
  | '-' :: '-' :: name => ofLong name
  | '-' :: letters => ofShort letters
  | _ => .word

end Argument

structure Settings where
  history : Option String
  noHistory : Bool
  prompt : Option String

namespace Settings

def none : Settings where
  history := .none
  noHistory := false
  prompt := .none

/-- The arguments that options and words make.  The prompt is a sign, unless another
text is named. -/
def withWords (settings : Settings) (words : List String) : Arguments where
  history := settings.history
  noHistory := settings.noHistory
  prompt := settings.prompt.getD "> "
  words := words

end Settings

inductive Invocation where
  | run (arguments : Arguments)
  | tellVersion
  | tellUsage
  | misuse

namespace Invocation

def ofCommandLineAfter (settings : Settings) : List String → Invocation
  | [] => .run (settings.withWords [])
  | argument :: rest =>
    match Argument.ofString argument with
    | .word => .run (settings.withWords (argument :: rest))
    | .separator => .run (settings.withWords rest)
    | .option .version .none => .tellVersion
    | .option .help .none => .tellUsage
    | .option .noHistory .none =>
        if settings.noHistory then .misuse
        else ofCommandLineAfter { settings with noHistory := true } rest
    | .option .history (some path) =>
        if settings.history.isSome || path = "" then .misuse
        else ofCommandLineAfter { settings with history := some path } rest
    | .option .prompt (some text) =>
        if settings.prompt.isSome then .misuse
        else ofCommandLineAfter { settings with prompt := some text } rest
    | .option .history .none =>
        match rest with
        | [] => .misuse
        | path :: rest =>
          if settings.history.isSome || path = "" || Argument.ofString path ≠ .word then .misuse
          else ofCommandLineAfter { settings with history := some path } rest
    | .option .prompt .none =>
        match rest with
        | [] => .misuse
        | text :: rest =>
          if settings.prompt.isSome || Argument.ofString text ≠ .word then .misuse
          else ofCommandLineAfter { settings with prompt := some text } rest
    | .option _ (some _) => .misuse

def ofCommandLine (arguments : List String) : Invocation :=
  ofCommandLineAfter Settings.none arguments

def versionText : String :=
  Console.ended ["tlisp " ++ Console.version]

def usageText : String :=
  Console.ended
    ["A tiny lisp. Starts a REPL unless an expression is given",
      "",
      "Usage: tlisp [OPTIONS] [EXPR]...",
      "",
      "Arguments:",
      "  [EXPR]...  Evaluate this expression, print the result and exit",
      "",
      "Options:",
      "      --history <HISTORY>  File to keep REPL history in, defaults to ~/.tlisp_history",
      "      --no-history         Neither load nor save REPL history",
      "      --prompt <PROMPT>    Prompt printed before each line [default: \"> \"]",
      "  -h, --help               Print help",
      "  -V, --version            Print version"]

def misuseCode : Nat := 2

end Invocation

end MiniLisp
