/-!
# Fixed texts

What a session writes that depends on nothing: the banner that it begins with and
the help that it gives.
-/

namespace MiniLisp

namespace Console

/-- Lines as one text, in which each of them is ended. -/
def ended (lines : List String) : String :=
  String.join (lines.map fun line => line ++ "\n")

def version : String := "0.0.1"

def banner : String :=
  ended
    ["TLisp v" ++ version,
      "",
      "For help, type :help",
      "Press Ctrl+C or type :exit to Exit",
      ""]

def helpText : String :=
  ended
    ["Expressions:",
      "  42  3.5e2  0xff         numbers",
      "  true  false  null       literals",
      "  (+ a b) (- a b)         arithmetic, also * and /",
      "  (define name expr)      bind name in the environment",
      "  (if cond then else)     cond must be a boolean",
      "Commands:",
      "  :help                   show this message",
      "  :env                    list bound names",
      "  :exit                   quit (also Ctrl-C / Ctrl-D)"]

end Console

end MiniLisp
