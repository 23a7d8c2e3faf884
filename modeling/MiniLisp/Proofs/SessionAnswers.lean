import MiniLisp.Proofs.LineStages
import MiniLisp.Proofs.PipedEditor
import MiniLisp.Proofs.ScopeChain
import MiniLisp.Proofs.SessionSteps

/-!
# The answers of a session

A session writes a banner, and for each line that it hears a prompt and an answer.  What the
answer is depends on the tokens of the line and on the lines before it that were evaluated,
again only by their tokens: it is the answer of an interpreter that has been given those lines
and no others.  So a line that is not evaluated makes no difference to the answers of the
others, wherever it stands.

All of this is said of any line editor that reads the lines of its input one by one and shows
what is written.
-/

universe u

namespace MiniLisp

namespace Interpreter

/-- The answers to lines one after another.  The interpreter is given those lines only that
are evaluated. -/
def answers (interpreter : Interpreter) (lines : List String) : List String :=
  lines.mapIdx fun index line =>
    (interpreter.after ((lines.take index).filter IsEvaluated)).answer line

theorem after_append (interpreter : Interpreter) (lines later : List String) :
    interpreter.after (lines ++ later) = (interpreter.after lines).after later :=
  List.foldl_append

theorem answers_cons (interpreter : Interpreter) (line : String) (later : List String) :
    interpreter.answers (line :: later) =
      interpreter.answer line ::
        (interpreter.after ([line].filter IsEvaluated)).answers later := by
  rw [answers, List.mapIdx_cons, answers]
  refine congrArg (interpreter.answer line :: ·) (congrArg (List.mapIdx · later) ?_)
  funext index next
  rw [List.take_succ_cons, ← List.singleton_append, List.filter_append, after_append]

/-- Lines with the same tokens have the same answer and leave the same interpreter. -/
theorem answer_congr (interpreter : Interpreter) {line other : String}
    (same : tokenize line = tokenize other) :
    interpreter.answer line = interpreter.answer other ∧
      interpreter.after ([line].filter IsEvaluated) =
        interpreter.after ([other].filter IsEvaluated) := by
  obtain ⟨sameResult, sameScopes⟩ :=
    evalLine_congr_of_tokenize same interpreter.scope interpreter.scopes
  have sameKind : IsEvaluated line ↔ IsEvaluated other := by
    rw [IsEvaluated, IsEvaluated, same]
  constructor
  · rw [answer, answer, same, outcome, outcome, sameResult]
  · by_cases evaluated : IsEvaluated line
    · have left : interpreter.leftBy (interpreter.outcome line) =
          interpreter.leftBy (interpreter.outcome other) :=
        congrArg (Interpreter.mk · interpreter.scope) sameScopes
      simpa [evaluated, sameKind.1 evaluated, after] using left
    · simp [evaluated, mt sameKind.2 evaluated]

theorem answers_congr (interpreter : Interpreter) {lines others : List String}
    (same : lines.map tokenize = others.map tokenize) :
    interpreter.answers lines = interpreter.answers others := by
  induction lines generalizing interpreter others with
  | nil =>
      obtain rfl : others = [] := List.map_eq_nil_iff.1 same.symm
      rfl
  | cons line lines ih =>
      obtain ⟨other, rest, rfl, sameLine, sameRest⟩ := List.map_eq_cons_iff.1 same.symm
      obtain ⟨sameAnswer, sameAfter⟩ := answer_congr interpreter sameLine.symm
      rw [answers_cons, answers_cons, sameAnswer, sameAfter, ih _ sameRest.symm]

/-- The answers to the lines evaluated are what an interpreter gives that has no other lines. -/
theorem answers_evaluated (interpreter : Interpreter) (lines : List String) :
    ((lines.zip (interpreter.answers lines)).filter fun entry => IsEvaluated entry.1).map
        Prod.snd =
      (interpreter.outcomes (lines.filter IsEvaluated)).map fun outcome =>
        answerOfResult outcome.result := by
  induction lines generalizing interpreter with
  | nil => rfl
  | cons line lines ih =>
      rw [answers_cons, List.zip_cons_cons]
      by_cases evaluated : IsEvaluated line
      · have further := ih (interpreter.leftBy (interpreter.outcome line))
        have answered := interpreter.answer_of_isEvaluated evaluated
        simpa [evaluated, answered, outcomes, after] using further
      · simpa [evaluated, after] using ih interpreter

end Interpreter

/-- A line that a session answers without evaluating it, and that does not end the session. -/
def IsIdle (line : String) : Prop :=
  tokenize line ∈ [[], [":help"], [":env"]]

theorem IsIdle.not_exit {line : String} (isIdle : IsIdle line) : tokenize line ≠ [":exit"] := by
  intro isExit
  rw [IsIdle, isExit] at isIdle
  revert isIdle
  decide

theorem IsIdle.not_isEvaluated {line : String} (isIdle : IsIdle line) : ¬ IsEvaluated line := by
  have intercepted : ∀ tokens ∈ [[], [":help"], [":env"]], tokens ∈ interceptedTokens := by
    decide
  exact not_not.2 (intercepted _ isIdle)

namespace Session

open LineEditor

/-- What is written after the last answer: the prompt for what could not be read. -/
def Ending.closing (prompt : String) : Ending → String
  | .exit => ""
  | .endOfInput | .garbled => prompt

theorem heard_insert {idle : String} (isIdle : IsIdle idle) (interpreter : Interpreter)
    (before later : List InputLine) :
    (interpreter.answers (heard (before ++ .text idle :: later)).1).eraseIdx before.length =
        interpreter.answers (heard (before ++ later)).1 ∧
      (heard (before ++ .text idle :: later)).2 = (heard (before ++ later)).2 := by
  induction before using heard_induction generalizing interpreter with
  | nil =>
      rw [List.nil_append, List.nil_append, heard_of_line isIdle.not_exit later,
        Interpreter.answers_cons]
      simp [isIdle.not_isEvaluated, Interpreter.after]
  | garbled before => exact ⟨rfl, rfl⟩
  | exit line before isExit =>
      rw [List.cons_append, List.cons_append, heard_of_exit isExit, heard_of_exit isExit]
      exact ⟨rfl, rfl⟩
  | goOn line before notExit ih =>
      rw [List.cons_append, List.cons_append, heard_of_line notExit, heard_of_line notExit,
        Interpreter.answers_cons, Interpreter.answers_cons]
      obtain ⟨sameAnswers, sameEnding⟩ := ih (interpreter.after ([line].filter IsEvaluated))
      exact ⟨congrArg (_ :: ·) sameAnswers, sameEnding⟩

variable {ω : Type u} [LineEditor ω] {pending : ω → List InputLine} {output : ω → String}

theorem output_afterLine (shows : ShowsOutput output) (interpreter : Interpreter) (line : String)
    (world : ω) :
    output (afterLine interpreter line world) = output world ++ interpreter.answer line := by
  unfold afterLine
  split
  · next isBlank =>
    rw [Interpreter.answer, if_pos (.inl isBlank), String.append_empty]
  · rw [shows.write, shows.addEntry]

/-- Taking lines writes a prompt and an answer for each line heard. -/
theorem output_converse (reads : ReadsLines pending) (shows : ShowsOutput output)
    (prompt : String) (interpreter : Interpreter) (world : ω) :
    output (converse prompt interpreter world).2 =
      output world ++
        String.join ((interpreter.answers (heard (pending world)).1).map (prompt ++ ·)) ++
        (heard (pending world)).2.closing prompt := by
  generalize shape : pending world = lines
  induction lines using heard_induction generalizing interpreter world with
  | nil =>
      rw [converse_of_nil reads prompt interpreter shape, shows.readLine]
      simp [heard, Interpreter.answers, Ending.closing]
  | garbled later =>
      obtain ⟨cause, failed⟩ := converse_of_garbled reads prompt interpreter shape
      rw [failed, shows.readLine]
      simp [heard, Interpreter.answers, Ending.closing]
  | exit line later isExit =>
      have silent : interpreter.answer line = "" := if_pos (.inr isExit)
      rw [converse_of_exit reads prompt interpreter shape isExit, shows.addEntry, shows.readLine,
        heard_of_exit isExit]
      simp [Interpreter.answers, silent, Ending.closing, Interpreter.after]
  | goOn line later notExit ih =>
      obtain ⟨further, isNext⟩ := converse_of_line reads prompt interpreter shape notExit
      rw [further, heard_of_line notExit, ih _ _ isNext, output_afterLine shows, shows.readLine,
        Interpreter.answers_cons, List.map_cons, String.join_cons]
      simp only [String.append_assoc]

theorem output_begun (shows : ShowsOutput output) (path : Option String) (ready : ω) :
    output (begun path ready) = output ready ++ Console.banner := by
  rw [begun, shows.write]
  cases path with
  | none => rfl
  | some path => exact congrArg (· ++ Console.banner) (shows.loadHistory path ready)

theorem pending_begun (reads : ReadsLines pending) (path : Option String) (ready : ω) :
    pending (begun path ready) = pending ready := by
  rw [begun, reads.write]
  cases path with
  | none => rfl
  | some path => exact reads.loadHistory path ready

theorem output_closed (shows : ShowsOutput output) (path : Option String)
    (ended : Except String Unit × ω) : output (closed path ended) = output ended.2 := by
  rcases ended with ⟨cause | ⟨⟩, left⟩
  · rfl
  · cases path with
    | none => rfl
    | some path => exact shows.saveHistory path left

/-- A session writes the banner, and then a prompt and an answer for each line heard. -/
theorem output_run (reads : ReadsLines pending) (shows : ShowsOutput output)
    {arguments : Arguments} (noWords : arguments.words = []) (home : Option String) (world : ω) :
    output (Program.run arguments home world).2 =
      output world ++ Console.banner ++
        String.join
          ((Interpreter.start.answers (heard (pending world)).1).map (arguments.prompt ++ ·)) ++
        (heard (pending world)).2.closing arguments.prompt := by
  obtain ⟨ready, started, same⟩ := reads.start world
  rw [run_of_start noWords started, output_closed shows, output_converse reads shows,
    pending_begun reads, same, output_begun shows, shows.start started]

/-- A session fails if a line of its input cannot be read. -/
theorem exitCode_run (reads : ReadsLines pending) {arguments : Arguments}
    (noWords : arguments.words = []) (home : Option String) (world : ω) :
    Program.exitCode (Program.run arguments home world).1 =
      if (heard (pending world)).2 = .garbled then 1 else 0 := by
  obtain ⟨ready, started, same⟩ := reads.start world
  let path := arguments.historyPath home
  have succeeds := converse_ok_iff reads (begun path ready) arguments.prompt Interpreter.start
  rw [pending_begun reads, same] at succeeds
  rw [run_of_start noWords started]
  change Program.exitCode (converse arguments.prompt Interpreter.start (begun path ready)).1 = _
  cases ended : (converse arguments.prompt Interpreter.start (begun path ready)).1 with
  | ok => rw [if_neg (succeeds.1 ended), Program.exitCode]
  | error cause =>
      have garbled : (heard (pending world)).2 = .garbled := by
        by_contra readable
        cases ended.symm.trans (succeeds.2 readable)
      rw [if_pos garbled, Program.exitCode]

/-- What comes of a session whose input has the lines still pending. -/
structure AnswersInput (pending : ω → List InputLine) (output : ω → String)
    (arguments : Arguments) (home : Option String) (world : ω) : Prop where
  output : output (Program.run arguments home world).2 =
    output world ++ Console.banner ++
      String.join
        ((Interpreter.start.answers (heard (pending world)).1).map (arguments.prompt ++ ·)) ++
      (heard (pending world)).2.closing arguments.prompt
  exitCode : Program.exitCode (Program.run arguments home world).1 =
    if (heard (pending world)).2 = .garbled then 1 else 0
  /-- The lines evaluated have the answers that they would have without the others. -/
  evaluated :
    (((heard (pending world)).1.zip
          (Interpreter.start.answers (heard (pending world)).1)).filter fun entry =>
        IsEvaluated entry.1).map Prod.snd =
      (Interpreter.start.outcomes ((heard (pending world)).1.filter IsEvaluated)).map
        fun outcome => answerOfResult outcome.result
  tokens : ∀ others : List String,
    others.map tokenize = (heard (pending world)).1.map tokenize →
      Interpreter.start.answers others = Interpreter.start.answers (heard (pending world)).1
  blank : ∀ line, tokenize line = [] ↔ trimBlank line.toList = []
  /-- The names listed are those bound in the scope itself, in ascending order. -/
  names : ∀ interpreter : Interpreter, interpreter.names.Pairwise (· < ·) ∧
    ∀ name, name ∈ interpreter.names ↔
      interpreter.scopes.isLocal interpreter.scope name = true
  /-- One more line that is not evaluated leaves all other answers as they are. -/
  insert : ∀ before later idle, pending world = before ++ later → IsIdle idle →
    (Interpreter.start.answers (heard (before ++ .text idle :: later)).1).eraseIdx
        before.length = Interpreter.start.answers (heard (pending world)).1 ∧
      (heard (before ++ .text idle :: later)).2 = (heard (pending world)).2

/-- Whatever the lines of its input, a session answers those that it hears, one by one, and only
the lines evaluated before a line have a part in its answer. -/
theorem run_answersInput (reads : ReadsLines pending) (shows : ShowsOutput output)
    (arguments : Arguments) (noWords : arguments.words = []) (home : Option String) (world : ω) :
    AnswersInput pending output arguments home world where
  output := output_run reads shows noWords home world
  exitCode := exitCode_run reads noWords home world
  evaluated := Interpreter.start.answers_evaluated (heard (pending world)).1
  tokens := fun _ same => Interpreter.start.answers_congr same
  blank := by
    intro line
    rw [tokenize_eq_splitTokens, trimBlank_eq_nil_iff]
  names := by
    intro interpreter
    refine ⟨Scopes.pairwise_names interpreter.scopes interpreter.scope, ?_⟩
    intro name
    rw [Scopes.isLocal_eq_isSome]
    exact Scopes.mem_names_iff
  insert := by
    intro before later idle shape isIdle
    rw [shape]
    exact heard_insert isIdle Interpreter.start before later

/-- Blank characters of any kind around a command are passed over, and a line after its first
expression is not looked at.  The line after the garbled one is not answered. -/
theorem run_answersInput_garbled :
    let lines : List InputLine :=
      [.text "(define x true)) y", .text "\u3000", .text "\t:env\u2003", .text "(if x null y)",
        .garbled, .text "x"]
    let world : Piped Piped.eraseBackward := .begin lines []
    let arguments : Arguments :=
      { history := none, noHistory := false, prompt := "> ", words := [] }
    ReadsLines (@Piped.pending Piped.eraseBackward) ∧
      ShowsOutput (@Piped.output Piped.eraseBackward) ∧ arguments.words = [] ∧
      AnswersInput Piped.pending Piped.output arguments (some "/home") world ∧
      (Program.run arguments (some "/home") world).2.output =
        Console.banner ++ "> null\n> > * + - / x\n> null\n> " ∧
      Program.exitCode (Program.run arguments (some "/home") world).1 = 1 := by
  intro lines world arguments
  have answered : AnswersInput Piped.pending Piped.output arguments (some "/home") world :=
    run_answersInput Piped.readsLines Piped.showsOutput arguments rfl (some "/home") world
  refine ⟨Piped.readsLines, Piped.showsOutput, rfl, answered, answered.output.trans ?_,
    answered.exitCode.trans ?_⟩ <;> decide +kernel

end Session

end MiniLisp
