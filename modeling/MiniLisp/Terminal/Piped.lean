import MiniLisp.Console.Session
import MiniLisp.Terminal.InputLine

/-!
# Piped input

One line editor, whose world is that of a program with its input piped into it: the lines
still to be read, what has been written, the entries of the history and the files.  A prompt
is written before each line is read, also before the end of the input.  A line is edited as
it is read, and may come to no line at all, which aborts the program.  How lines are edited
is left open.

No entry is made of a line that repeats the one before it, and only the latest entries are
kept.  In a file, a first line tells the format, and each entry has a line after it.  The
file is written if there is a new entry.
-/

namespace MiniLisp

structure Piped (edit? : String → Option String) where
  input : List InputLine
  output : String
  /-- The entries of the history, the oldest first. -/
  entries : List String
  /-- Whether an entry was made since the history was loaded. -/
  changed : Bool
  files : List (String × String)
  aborted : Bool

namespace Piped

def capacity : Nat := 100

def formatLine : String := "#V2"

/-- Whether no entry is made of a line after the others. -/
def isPassedOver (entries : List String) (line : String) : Bool :=
  line = "" || entries.getLast? = some line

def enter (entries : List String) (line : String) : List String :=
  if isPassedOver entries line then entries
  else (entries ++ [line]).drop (entries.length + 1 - capacity)

/-- A line without the carriage return at its end, from its characters, the last first. -/
def endLine : List Char → String
  | '\r' :: before => String.ofList before.reverse
  | before => String.ofList before.reverse

/-- The lines of a text, after some characters of the first of them, the last first. -/
def splitLines (before : List Char) : List Char → List String
  | [] => if before.isEmpty then [] else [String.ofList before.reverse]
  | '\n' :: rest => endLine before :: splitLines [] rest
  | char :: rest => splitLines (char :: before) rest

def entriesOf (content : String) : List String :=
  let lines := splitLines [] content.toList
  (if lines.head? = some formatLine then lines.drop 1 else lines).foldl enter []

def contentOf (entries : List String) : String :=
  Console.ended (formatLine :: entries)

variable {edit? : String → Option String}

def begin (input : List InputLine) (files : List (String × String)) : Piped edit? where
  input := input
  output := ""
  entries := []
  changed := false
  files := files
  aborted := false

def readLine (prompt : String) (world : Piped edit?) : Reading × Piped edit? :=
  let world := { world with output := world.output ++ prompt }
  match world.input with
  | [] => (.endOfInput, world)
  | .garbled :: later => (.failed "a line is garbled", { world with input := later })
  | .text typed :: later =>
    match edit? typed with
    | some line => (.line line, { world with input := later })
    | none => (.failed "a line is torn", { world with input := later, aborted := true })

def addEntry (line : String) (world : Piped edit?) : Piped edit? :=
  if isPassedOver world.entries line then world
  else { world with entries := enter world.entries line, changed := true }

def loadHistory (path : String) (world : Piped edit?) : Piped edit? :=
  match world.files.lookup path with
  | some content => { world with entries := entriesOf content, changed := false }
  | none => world

def saveHistory (path : String) (world : Piped edit?) : Piped edit? :=
  if world.changed then
    { world with files := (path, contentOf world.entries) :: world.files }
  else world

instance : LineEditor (Piped edit?) where
  start world := .ok { world with entries := [], changed := false }
  write text world := { world with output := world.output ++ text }
  readLine := readLine
  addEntry := addEntry
  loadHistory := loadHistory
  saveHistory := saveHistory
  size world := world.input.length
  size_lt_of_readLine := by
    intro prompt line world after read
    unfold readLine at read
    dsimp only at read
    split at read
    · cases read
    · cases read
    · next shape =>
      split at read
      · cases read
        simp [shape]
      · cases read
  size_addEntry_le := by
    intro line world
    unfold addEntry
    split <;> exact Nat.le_refl _
  size_write_le := fun _ _ => Nat.le_refl _

def abortedCode : Nat := 101

def exitCode (result : Except String Unit) (world : Piped edit?) : Nat :=
  if world.aborted then abortedCode else Program.exitCode result

end Piped

end MiniLisp
