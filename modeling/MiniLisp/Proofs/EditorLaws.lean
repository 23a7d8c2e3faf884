import MiniLisp.Proofs.CommandWords
import MiniLisp.Proofs.HistoryEntries
import MiniLisp.Terminal.InputLine

/-!
# What is assumed of a line editor

A session knows a line editor by its operations only.  What it can say of its answers and of the
file of its history therefore depends on what the editor does with lines, and that is told here
in three assumptions about what can be seen of its world.

* The lines of the input are read one by one, each as it is, whatever else is asked of the
  editor in between.  A line that is no text cannot be read.
* What is written comes after what was written before, and a prompt is written before each line
  is read.  Nothing else is written.
* An entry is made of each line entered that does not repeat the entry before it, the last
  hundred entries are kept, and entries go into a file and come out of it as the lines after one
  that tells the format.  The file is written only if there is a new entry.

Each of the three is used where it is needed.
-/

universe u

namespace MiniLisp

namespace LineEditor

variable {ω : Type u} [LineEditor ω]

/-- The lines of the input are read one by one.  Those still to be read are pending. -/
structure ReadsLines (pending : ω → List InputLine) : Prop where
  line : ∀ {world : ω} {line : String} {later : List InputLine},
    pending world = .text line :: later → ∀ prompt,
      ∃ after, readLine prompt world = (.line line, after) ∧ pending after = later
  garbled : ∀ {world : ω} {later : List InputLine}, pending world = .garbled :: later →
    ∀ prompt, ∃ cause after, readLine prompt world = (.failed cause, after)
  endOfInput : ∀ {world : ω}, pending world = [] →
    ∀ prompt, ∃ after, readLine prompt world = (.endOfInput, after)
  start : ∀ world, ∃ after, start world = .ok after ∧ pending after = pending world
  loadHistory : ∀ path world, pending (loadHistory path world) = pending world
  addEntry : ∀ line world, pending (addEntry line world) = pending world
  write : ∀ text world, pending (write text world) = pending world

/-- The output is what is written and a prompt before each line. -/
structure ShowsOutput (output : ω → String) : Prop where
  write : ∀ text world, output (write text world) = output world ++ text
  readLine : ∀ prompt world, output (readLine prompt world).2 = output world ++ prompt
  start : ∀ {world after}, start world = .ok after → output after = output world
  loadHistory : ∀ path world, output (loadHistory path world) = output world
  addEntry : ∀ line world, output (addEntry line world) = output world
  saveHistory : ∀ path world, output (saveHistory path world) = output world

/-- A line without characters that a file of lines may not hold as they are.  Backslashes are
among them because an editor may take them to stand for other characters. -/
def IsEntryText (line : String) : Prop :=
  ∀ char ∈ line.toList, char ∉ ['\n', '\r', '\\']

instance : DecidablePred IsEntryText := fun line =>
  List.decidableBAll _ line.toList

/-- A line of which an entry can be made that a file holds as it is. -/
structure IsEntry (line : String) : Prop where
  nonblank : IsNonblank line
  plain : IsEntryText line

/-- The content of a file with the given entries, the oldest first. -/
def historyText (entries : List String) : String :=
  "#V2\n" ++ String.join (entries.map (· ++ "\n"))

/-- The entries of a history are lines without repetitions, of which a hundred are kept, and its
file holds them.  Whether there is a new entry since they were loaded decides if it is written. -/
structure KeepsEntries (path : String) (file : ω → Option String) (entries : ω → List String)
    (changed : ω → Bool) : Prop where
  start : ∀ {world after}, start world = .ok after →
    entries after = [] ∧ changed after = false ∧ file after = file world
  write : ∀ text world, entries (write text world) = entries world ∧
    changed (write text world) = changed world ∧ file (write text world) = file world
  readLine : ∀ prompt world, entries (readLine prompt world).2 = entries world ∧
    changed (readLine prompt world).2 = changed world ∧
    file (readLine prompt world).2 = file world
  /-- A line that repeats the entry before it leaves the entries as they are. -/
  addRepeated : ∀ {line world}, (entries world).getLast? = some line →
    entries (addEntry line world) = entries world ∧
      changed (addEntry line world) = changed world
  addNew : ∀ {line world}, IsNonblank line → (entries world).getLast? ≠ some line →
    entries (addEntry line world) = (entries world ++ [line]).rtake 100 ∧
      changed (addEntry line world) = true
  file_addEntry : ∀ line world, file (addEntry line world) = file world
  /-- Where there is no file, nothing is loaded. -/
  loadAbsent : ∀ {world}, file world = none →
    entries (loadHistory path world) = entries world ∧
      changed (loadHistory path world) = changed world
  /-- The lines of a file are entered one by one. -/
  loadPresent : ∀ {world lines}, entries world = [] → (∀ line ∈ lines, IsEntry line) →
    file world = some (historyText lines) →
      entries (loadHistory path world) = (History.entered [] lines).rtake 100 ∧
        changed (loadHistory path world) = false
  file_loadHistory : ∀ world, file (loadHistory path world) = file world
  saveUnchanged : ∀ {world}, changed world = false →
    file (saveHistory path world) = file world
  saveChanged : ∀ {world}, (∀ entry ∈ entries world, IsEntry entry) → changed world = true →
    file (saveHistory path world) = some (historyText (entries world))

end LineEditor

end MiniLisp
