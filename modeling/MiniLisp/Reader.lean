import MiniLisp.Expr.Atom
import MiniLisp.Token

/-!
# Reading expressions

An expression is read from its tokens one by one.  While it is incomplete, what
has been read is the stack of the lists that are open, each with the items it
has so far.  An opening parenthesis opens a list, a closing one completes the
innermost list, and any other token is an atom.  What is complete becomes an item
of the innermost open list or, with no list open, is the expression.

The reader takes no token past the end of the expression or past the token that
makes reading fail, so several expressions can be read from one cursor.
-/

universe u

namespace MiniLisp

inductive ReadError where
  | endOfInput
  | unexpectedClose
  | tooDeep (limit : Nat)
deriving DecidableEq

def ReadError.message : ReadError → String
  | .endOfInput => "unexpected end of input"
  | .unexpectedClose => "unexpected ')'"
  | .tooDeep limit => s!"expression nested deeper than {limit} levels"

/-- The number of lists that may be open at once. -/
def maxDepth : Nat := 1024

namespace Reader

/-- Where a reader stands after a token. -/
inductive Progress where
  /-- The expression is incomplete.  The innermost open list comes first, and in
  each list the newest item. -/
  | pending (opened : List (List Expr))
  | finished (expr : Expr)
  | failed (error : ReadError)

/-- Put a complete expression into the innermost open list. -/
def place (expr : Expr) : List (List Expr) → Progress
  | [] => .finished expr
  | items :: outer => .pending ((expr :: items) :: outer)

def feed (opened : List (List Expr)) (token : String) : Progress :=
  if token = "(" then
    if opened.length < maxDepth then .pending ([] :: opened)
    else .failed (.tooDeep maxDepth)
  else if token = ")" then
    match opened with
    | [] => .failed .unexpectedClose
    | items :: outer => place (.list items.reverse) outer
  else
    place (Expr.ofWord token) opened

variable {σ : Type u} [Source σ String]

/-- Read on from the lists that are open. -/
def resume (opened : List (List Expr)) (cursor : Cursor σ String) :
    Except ReadError Expr × Cursor σ String :=
  match _ : cursor.next with
  | (none, after) => (.error .endOfInput, after)
  | (some token, after) =>
    match feed opened token with
    | .pending opened => resume opened after
    | .finished expr => (.ok expr, after)
    | .failed error => (.error error, after)
termination_by cursor.size
decreasing_by exact Cursor.size_lt_of_next ‹_›

theorem resume_of_next_eq_some {opened : List (List Expr)} {cursor after : Cursor σ String}
    {token : String} (stepped : cursor.next = (some token, after)) :
    resume opened cursor =
      match feed opened token with
      | .pending opened => resume opened after
      | .finished expr => (.ok expr, after)
      | .failed error => (.error error, after) := by
  rw [resume]
  split
  · next finished =>
    rw [stepped] at finished
    cases finished
  · next given =>
    rw [stepped] at given
    cases given
    rfl

theorem resume_of_next_eq_none {opened : List (List Expr)} {cursor after : Cursor σ String}
    (finished : cursor.next = (none, after)) :
    resume opened cursor = (.error .endOfInput, after) := by
  rw [resume]
  split <;> simp_all

end Reader

/-- Read the next expression, which leaves the cursor after its last token. -/
def Cursor.read {σ : Type u} [Source σ String] (cursor : Cursor σ String) :
    Except ReadError Expr × Cursor σ String :=
  Reader.resume [] cursor

def readTokens (tokens : List String) : Except ReadError Expr :=
  (Cursor.ofSource tokens).read.1

def readText (text : String) : Except ReadError Expr :=
  (tokenCursor text).read.1

end MiniLisp
