import MiniLisp.Proofs.EditorLaws
import MiniLisp.Proofs.EvaluationEffect

/-!
# Steps of a session

A session hears the lines of its input up to the first that asks it to end or that cannot be
read.  What a line does depends on its tokens: a line without tokens does nothing at all, and of
any other an entry is made before it is answered.  The answer is that of an interpreter which has
been given the lines before that are evaluated, and no others.

With an editor that reads the lines of the input one by one, each line heard is one step of the
session, and what is pending after it are the lines after it.  An induction over the lines then
has a case for each way in which a session can end, and one in which it goes on.  What is kept by
every step is kept by the session as a whole.
-/

universe u

namespace MiniLisp

def interceptedTokens : List (List String) :=
  [[], [":exit"], [":help"], [":env"]]

theorem Command.ofTokens_eq_evaluate_iff {tokens : List String} :
    Command.ofTokens tokens = .evaluate ↔ tokens ∉ interceptedTokens := by
  unfold Command.ofTokens interceptedTokens
  split_ifs <;> simp_all

/-- Whether a line is evaluated rather than answered by the session itself. -/
def IsEvaluated (line : String) : Prop :=
  tokenize line ∉ interceptedTokens

instance : DecidablePred IsEvaluated := fun line =>
  inferInstanceAs (Decidable (tokenize line ∉ interceptedTokens))

def answerOfResult : Except EvalError Value → String
  | .ok value => value.render ++ "\n"
  | .error error => error.message ++ "\n"

/-- The answer to a line, with the interpreter that has evaluated the lines before it. -/
def Interpreter.answer (interpreter : Interpreter) (line : String) : String :=
  if tokenize line = [] ∨ tokenize line = [":exit"] then ""
  else if tokenize line = [":help"] then Console.helpText
  else if tokenize line = [":env"] then " ".intercalate interpreter.names ++ "\n"
  else answerOfResult (interpreter.outcome line).result

theorem Interpreter.answer_of_isEvaluated {line : String} (evaluated : IsEvaluated line)
    (interpreter : Interpreter) :
    interpreter.answer line = answerOfResult (interpreter.outcome line).result := by
  simp only [IsEvaluated, interceptedTokens, List.mem_cons, List.not_mem_nil, or_false,
    not_or] at evaluated
  obtain ⟨notBlank, notExit, notHelp, notEnvironment⟩ := evaluated
  simp [answer, notBlank, notExit, notHelp, notEnvironment]

namespace Session

open LineEditor

inductive Ending where
  | exit
  | endOfInput
  | garbled
deriving DecidableEq

/-- The lines that a session hears, and what it ends with. -/
def heard : List InputLine → List String × Ending
  | [] => ([], .endOfInput)
  | .garbled :: _ => ([], .garbled)
  | .text line :: later =>
    if tokenize line = [":exit"] then ([line], .exit)
    else (line :: (heard later).1, (heard later).2)

theorem heard_of_exit {line : String} (isExit : tokenize line = [":exit"])
    (later : List InputLine) : heard (.text line :: later) = ([line], .exit) :=
  if_pos isExit

theorem heard_of_line {line : String} (notExit : tokenize line ≠ [":exit"])
    (later : List InputLine) :
    heard (.text line :: later) = (line :: (heard later).1, (heard later).2) :=
  if_neg notExit

/-- What holds of lines at which a session ends, and of a line that it goes on after whenever it
holds of the later lines, holds of all lines of input. -/
@[elab_as_elim]
theorem heard_induction {motive : List InputLine → Prop} (nil : motive [])
    (garbled : ∀ later, motive (.garbled :: later))
    (exit : ∀ line later, tokenize line = [":exit"] → motive (.text line :: later))
    (goOn : ∀ line later, tokenize line ≠ [":exit"] → motive later → motive (.text line :: later))
    (lines : List InputLine) : motive lines := by
  induction lines with
  | nil => exact nil
  | cons input later ih =>
      cases input with
      | garbled => exact garbled later
      | text line =>
          by_cases isExit : tokenize line = [":exit"]
          · exact exit line later isExit
          · exact goOn line later isExit ih

variable {ω : Type u} [LineEditor ω]

/-- The world after a line that the session goes on after. -/
def afterLine (interpreter : Interpreter) (line : String) (world : ω) : ω :=
  if tokenize line = [] then world
  else write (interpreter.answer line) (addEntry line world)

theorem take_of_exit {line : String} (isExit : tokenize line = [":exit"])
    (interpreter : Interpreter) (world : ω) :
    take interpreter line world = .finish (addEntry line world) := by
  rw [take, Command.ofLine_eq_ofTokens, isExit]
  rfl

theorem take_of_isEvaluated {line : String} (evaluated : IsEvaluated line)
    (interpreter : Interpreter) (world : ω) :
    take interpreter line world =
      .goOn (interpreter.leftBy (interpreter.outcome line))
        (write (interpreter.answer line) (addEntry line world)) := by
  rw [take, Command.ofLine_eq_ofTokens, Command.ofTokens_eq_evaluate_iff.2 evaluated,
    Interpreter.answer_of_isEvaluated evaluated]
  dsimp only [evaluate, writeLine]
  cases (interpreter.outcome line).result <;> rfl

/-- A line that does not end the session is answered, and an interpreter goes on that has been
given the line if it is one to evaluate. -/
theorem take_of_not_exit {line : String} (notExit : tokenize line ≠ [":exit"])
    (interpreter : Interpreter) (world : ω) :
    take interpreter line world =
      .goOn (interpreter.after ([line].filter IsEvaluated))
        (afterLine interpreter line world) := by
  by_cases evaluated : IsEvaluated line
  · have notBlank : tokenize line ≠ [] := by
      intro isBlank
      exact evaluated (by simp [isBlank, interceptedTokens])
    rw [take_of_isEvaluated evaluated, afterLine, if_neg notBlank]
    simp [evaluated, Interpreter.after]
  · have kept : interpreter.after ([line].filter IsEvaluated) = interpreter := by
      simp [evaluated, Interpreter.after]
    have intercepted : tokenize line ∈ interceptedTokens := not_not.1 evaluated
    simp only [interceptedTokens, List.mem_cons, List.not_mem_nil, or_false] at intercepted
    rw [kept, take, Command.ofLine_eq_ofTokens, afterLine, Interpreter.answer]
    rcases intercepted with isBlank | isExit | isHelp | isEnvironment
    · simp [isBlank, Command.ofTokens]
    · exact absurd isExit notExit
    · simp [isHelp, Command.ofTokens]
    · simp [isEnvironment, Command.ofTokens, writeLine]

/-- A line that is read is taken, and the session goes on if it does not end by it. -/
theorem converse_of_readLine {prompt line : String} {world after : ω}
    (read : readLine prompt world = (.line line, after)) (interpreter : Interpreter) :
    converse prompt interpreter world =
      match take interpreter line after with
      | .goOn next left => converse prompt next left
      | .finish left => (.ok (), left) := by
  rw [converse]
  split
  · next found => cases read.symm.trans found
  · next found => cases read.symm.trans found
  · next found => cases read.symm.trans found
  · next found =>
    cases read.symm.trans found
    split <;> simp_all

section Converse

variable {pending : ω → List InputLine} (reads : ReadsLines pending) {world : ω}
  {later : List InputLine} {line : String} (prompt : String) (interpreter : Interpreter)

include reads

theorem converse_of_nil (ended : pending world = []) :
    converse prompt interpreter world = (.ok (), (readLine prompt world).2) := by
  obtain ⟨after, read⟩ := reads.endOfInput ended prompt
  rw [converse]
  split <;> simp_all

theorem converse_of_garbled (isNext : pending world = .garbled :: later) :
    ∃ cause, converse prompt interpreter world = (.error cause, (readLine prompt world).2) := by
  obtain ⟨cause, after, read⟩ := reads.garbled isNext prompt
  refine ⟨"Readline err: " ++ cause, ?_⟩
  rw [converse]
  split <;> simp_all

theorem converse_of_exit (isNext : pending world = .text line :: later)
    (isExit : tokenize line = [":exit"]) :
    converse prompt interpreter world =
      (.ok (), addEntry line (readLine prompt world).2) := by
  obtain ⟨after, read, -⟩ := reads.line isNext prompt
  rw [converse_of_readLine read, take_of_exit isExit, read]

theorem converse_of_line (isNext : pending world = .text line :: later)
    (notExit : tokenize line ≠ [":exit"]) :
    converse prompt interpreter world =
        converse prompt (interpreter.after ([line].filter IsEvaluated))
          (afterLine interpreter line (readLine prompt world).2) ∧
      pending (afterLine interpreter line (readLine prompt world).2) = later := by
  obtain ⟨after, read, further⟩ := reads.line isNext prompt
  constructor
  · rw [converse_of_readLine read, take_of_not_exit notExit, read]
  · rw [read, afterLine]
    split
    · exact further
    · rw [reads.write, reads.addEntry, further]

variable (world) in
/-- A session ends well unless a line of its input cannot be read. -/
theorem converse_ok_iff :
    (converse prompt interpreter world).1 = .ok () ↔ (heard (pending world)).2 ≠ .garbled := by
  generalize shape : pending world = lines
  induction lines using heard_induction generalizing interpreter world with
  | nil =>
      rw [converse_of_nil reads prompt interpreter shape]
      exact iff_of_true rfl (by simp [heard])
  | garbled later =>
      obtain ⟨cause, failed⟩ := converse_of_garbled reads prompt interpreter shape
      rw [failed]
      exact iff_of_false (by simp) (by simp [heard])
  | exit line later isExit =>
      rw [converse_of_exit reads prompt interpreter shape isExit, heard_of_exit isExit]
      exact iff_of_true rfl (by simp)
  | goOn line later notExit ih =>
      obtain ⟨further, isNext⟩ := converse_of_line reads prompt interpreter shape notExit
      rw [further, heard_of_line notExit]
      exact ih _ _ isNext

/-- What holds of the lines heard so far and the world after them, and is kept by asking for a line
and by a line that is heard, holds of all lines heard and the world that a session leaves. -/
theorem holds_converse (holds : List String → ω → Prop) (before : List String)
    (asked : ∀ {lines world}, holds lines world → holds lines (readLine prompt world).2)
    (exited : ∀ {lines world line}, tokenize line = [":exit"] → holds lines world →
      holds (lines ++ [line]) (addEntry line world))
    (answered : ∀ {lines world} line interpreter, holds lines world →
      holds (lines ++ [line]) (afterLine interpreter line world))
    (begins : holds before world) :
    holds (before ++ (heard (pending world)).1) (converse prompt interpreter world).2 := by
  generalize shape : pending world = inputs
  induction inputs using heard_induction generalizing interpreter world before with
  | nil =>
      rw [converse_of_nil reads prompt interpreter shape]
      simpa [heard] using asked begins
  | garbled later =>
      obtain ⟨cause, failed⟩ := converse_of_garbled reads prompt interpreter shape
      rw [failed]
      simpa [heard] using asked begins
  | exit line later isExit =>
      rw [converse_of_exit reads prompt interpreter shape isExit, heard_of_exit isExit]
      exact exited isExit (asked begins)
  | goOn line later notExit ih =>
      obtain ⟨further, isNext⟩ := converse_of_line reads prompt interpreter shape notExit
      rw [further, heard_of_line notExit, List.append_cons]
      exact ih _ _ (answered line interpreter (asked begins)) isNext

end Converse

/-- The world in which a session takes its first line. -/
def begun (path : Option String) (ready : ω) : ω :=
  write Console.banner (path.elim ready (loadHistory · ready))

/-- What is left of a session when it takes no more lines: the history is saved, unless a line
could not be read. -/
def closed (path : Option String) (ended : Except String Unit × ω) : ω :=
  match ended.1 with
  | .ok () => path.elim ended.2 (saveHistory · ended.2)
  | .error _ => ended.2

/-- Without words, the program is a session. -/
theorem run_of_start {arguments : Arguments} (noWords : arguments.words = []) {world ready : ω}
    (started : start world = .ok ready) (home : Option String) :
    let path := arguments.historyPath home
    let ended := converse arguments.prompt Interpreter.start (begun path ready)
    Program.run arguments home world = (ended.1, closed path ended) := by
  intro path ended
  rw [Program.run, noWords, List.isEmpty_nil, if_pos rfl, run, started]
  dsimp only
  split
  · next left isEnded =>
    have shape : ended = (.ok (), left) := isEnded
    rw [shape, closed]
  · next cause left isEnded =>
    have shape : ended = (.error cause, left) := isEnded
    rw [shape, closed]

end Session

end MiniLisp
