/-!
# Arguments

The arguments of the program, told apart into options and the words of an
expression, and the file that they give for the history.
-/

namespace MiniLisp

structure Arguments where
  history : Option String
  noHistory : Bool
  prompt : String
  words : List String
deriving DecidableEq

def joinPath (directory file : String) : String :=
  if directory = "" || directory.endsWith "/" then directory ++ file
  else directory ++ "/" ++ file

/-- The file of the history: none if there is to be no history, and otherwise the
one named or one in the home directory, if there is one. -/
def Arguments.historyPath (arguments : Arguments) (home : Option String) : Option String :=
  if arguments.noHistory then none
  else arguments.history <|> home.map fun directory => joinPath directory ".tlisp_history"

end MiniLisp
