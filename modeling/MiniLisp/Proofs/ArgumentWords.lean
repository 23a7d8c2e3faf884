import MiniLisp.Proofs.SessionAnswers

/-!
# Expressions given as arguments

Words among the arguments are evaluated without a session.  Their one answer is all that the
program then writes, and nothing else becomes of its world, whatever the answer is.  What the
answer is follows from the tokens of the words, one word after another, so that it is the same
wherever the words are split between two tokens.

The joined words may also be read as the first line of a session.  The session gives the same
answer, unless it answers by itself: it passes over a line without tokens, and three words are
commands.  This is said of the line that the editor reads.  If a line is typed with a backspace
in it, the editor may read another, while in arguments a backspace is a character like others.
-/

universe u

namespace MiniLisp

open LineEditor

/-- The answer to words, with an interpreter that has seen no line. -/
def wordsAnswer (words : List String) : String :=
  answerOfResult (Interpreter.start.outcome (" ".intercalate words)).result

variable {ω : Type u} [LineEditor ω] {pending : ω → List InputLine} {output : ω → String}

end MiniLisp
