import MiniLisp.Proofs.SessionAnswers

/-!
# The history that sessions leave

A session enters the lines that it hears into its history, commands among them and blank lines
aside, and when it ends well it saves the history to its file, unless no line has made a new
entry.  A session that meets a line which cannot be read leaves the file as it is.

The file holds all that a later session needs of an earlier one.  So two sessions one after the
other leave the same file as one session with the lines of both, if the first does not exit
before the end of its lines: then the second would hear lines that the one session does not.

All of this is said of any line editor that reads the lines of its input one by one and keeps
entries as assumed.  The lines entered are those that it reads, which need not be the lines as
they were typed.
-/

universe u

namespace MiniLisp

open LineEditor History

/-- The file after lines that are entered with certain entries loaded. -/
def fileAfter (file : Option String) (loaded lines : List String) : Option String :=
  if entered loaded lines = loaded then file
  else some (historyText ((entered loaded lines).rtake 100))

/-- What may be there before a session, no file or one that holds entries, and what is loaded
then. -/
inductive IsHistoryFile : Option String → List String → Prop where
  | absent : IsHistoryFile none []
  | present {entries : List String} (valid : ∀ entry ∈ entries, IsEntry entry) :
      IsHistoryFile (some (historyText entries)) ((entered [] entries).rtake 100)

namespace IsHistoryFile

variable {file : Option String} {loaded lines : List String}

theorem isEntry (isFile : IsHistoryFile file loaded) : ∀ entry ∈ loaded, IsEntry entry := by
  intro entry member
  cases isFile with
  | absent => exact absurd member List.not_mem_nil
  | present valid =>
      have isEntered := List.mem_of_mem_drop member
      exact valid entry ((mem_entered isEntered).resolve_left List.not_mem_nil)

end IsHistoryFile

namespace Session

variable {ω : Type u} {entries : ω → List String} {changed : ω → Bool}

/-- The entries of a world are what is kept of those loaded and of lines entered after them. -/
structure HasEntered (entries : ω → List String) (changed : ω → Bool)
    (loaded lines : List String) (world : ω) : Prop where
  entries : entries world = (entered loaded lines).rtake 100
  changed : changed world = true ↔ entered loaded lines ≠ loaded

variable {loaded lines : List String} {world : ω} {line : String}

theorem HasEntered.congr {after : ω} (before : HasEntered entries changed loaded lines world)
    (sameEntries : entries after = entries world) (sameChanged : changed after = changed world) :
    HasEntered entries changed loaded lines after where
  entries := sameEntries.trans before.entries
  changed := by rw [sameChanged, before.changed]

variable [LineEditor ω] {pending : ω → List InputLine} {path : String} {file : ω → Option String}

theorem HasEntered.addEntry (keeps : KeepsEntries path file entries changed)
    (nonblank : IsNonblank line) (before : HasEntered entries changed loaded lines world) :
    HasEntered entries changed loaded (lines ++ [line]) (addEntry line world) := by
  have isNew := @entered_concat_ne_iff loaded lines line
  have sameLast : (entries world).getLast? = (entered loaded lines).getLast? := by
    rw [before.entries, getLast?_rtake (by decide)]
  by_cases isLast : (entries world).getLast? = some line
  · obtain ⟨sameEntries, sameChanged⟩ := keeps.addRepeated isLast
    rw [sameLast] at isLast
    constructor
    · rw [sameEntries, before.entries, entered_concat, enter_of_getLast?_eq isLast]
    · rw [sameChanged, before.changed, entered_concat, enter_of_getLast?_eq isLast]
  · obtain ⟨furtherEntries, isChanged⟩ := keeps.addNew nonblank isLast
    rw [sameLast] at isLast
    constructor
    · rw [furtherEntries, before.entries, rtake_rtake_concat, entered_concat,
        enter_of_getLast?_ne isLast]
    · exact iff_of_true isChanged (isNew.2 (.inr isLast))

/-- A line that the session goes on after is entered unless it is blank. -/
theorem HasEntered.afterLine (keeps : KeepsEntries path file entries changed)
    (before : HasEntered entries changed loaded lines world) (interpreter : Interpreter)
    (line : String) :
    HasEntered entries changed loaded (lines ++ [line].filter IsNonblank)
      (afterLine interpreter line world) := by
  unfold Session.afterLine
  split
  · next isBlank =>
    have blank : ¬ IsNonblank line := mt isNonblank_iff.1 (not_not.2 isBlank)
    simpa [blank] using before
  · next notBlank =>
    have nonblank : IsNonblank line := isNonblank_iff.2 notBlank
    obtain ⟨sameEntries, sameChanged, -⟩ :=
      keeps.write (interpreter.answer line) (LineEditor.addEntry line world)
    have added := (before.addEntry keeps nonblank).congr sameEntries sameChanged
    simpa [nonblank] using added

/-- Taking lines enters those heard that are not blank. -/
theorem HasEntered.converse (reads : ReadsLines pending)
    (keeps : KeepsEntries path file entries changed)
    (before : HasEntered entries changed loaded [] world) (prompt : String)
    (interpreter : Interpreter) :
    HasEntered entries changed loaded ((heard (pending world)).1.filter IsNonblank)
      (converse prompt interpreter world).2 := by
  let holds (lines : List String) : ω → Prop :=
    HasEntered entries changed loaded (lines.filter IsNonblank)
  have begins : holds [] world := before
  refine holds_converse reads prompt interpreter holds [] ?_ ?_ ?_ begins
  · intro lines world before
    obtain ⟨sameEntries, sameChanged, -⟩ := keeps.readLine prompt world
    exact before.congr sameEntries sameChanged
  · intro lines world line isExit before
    have nonblank : IsNonblank line := isNonblank_iff.2 (by simp [isExit])
    simpa [holds, nonblank] using before.addEntry keeps nonblank
  · intro lines world line interpreter before
    simpa only [holds, List.filter_append] using before.afterLine keeps interpreter line

/-- Saving leaves the file as the lines entered make it. -/
theorem HasEntered.saveHistory (keeps : KeepsEntries path file entries changed)
    (after : HasEntered entries changed loaded lines world)
    (valid : ∀ entry ∈ entered loaded lines, IsEntry entry) :
    file (saveHistory path world) = fileAfter (file world) loaded lines := by
  unfold fileAfter
  split
  · next nothingNew =>
    have unchanged : changed world = false := by
      rw [Bool.eq_false_iff]
      exact mt after.changed.1 (not_not.2 nothingNew)
    exact keeps.saveUnchanged unchanged
  · next someNew =>
    have isEntry : ∀ entry ∈ entries world, IsEntry entry := by
      intro entry member
      rw [after.entries] at member
      exact valid entry (List.mem_of_mem_drop member)
    rw [keeps.saveChanged isEntry (after.changed.2 someNew), after.entries]

variable {arguments : Arguments} {home : Option String}

end Session

end MiniLisp
