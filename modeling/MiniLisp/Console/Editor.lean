/-!
# Line editors

A session reads its lines through a line editor, which also keeps the history of
the lines entered.  What the editor works in is a world: the terminal, the entries
kept and the files there are.  A session only asks for the operations below, and
each of them leaves another world.  How lines are edited, what is kept and what a
file of entries looks like are matters of the editor.

No input is endless, so that there is a bound on the lines still to be read.
-/

universe u

namespace MiniLisp

inductive Reading where
  | line (content : String)
  | interrupted
  | endOfInput
  | failed (cause : String)

class LineEditor (ω : Type u) where
  /-- Get ready to read lines, unless that fails for a cause. -/
  start : ω → Except String ω
  write : String → ω → ω
  readLine : String → ω → Reading × ω
  addEntry : String → ω → ω
  loadHistory : String → ω → ω
  saveHistory : String → ω → ω
  size : ω → Nat
  size_lt_of_readLine : ∀ {prompt line : String} {world after : ω},
    readLine prompt world = (.line line, after) → size after < size world
  size_addEntry_le : ∀ (line : String) (world : ω), size (addEntry line world) ≤ size world
  size_write_le : ∀ (text : String) (world : ω), size (write text world) ≤ size world

end MiniLisp
