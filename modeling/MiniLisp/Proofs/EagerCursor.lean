import MiniLisp.Cursor.Script
import MiniLisp.Proofs.ReadingOutcome

/-!
# Cursors over sources that are read at once

A cursor reads its source as it goes.  Its eager twin has the same items on either
side of its position, but over the list of all that the source would still hand
out.  Every operation commutes with taking the twin, a pull from a dry source
included, and so does reading an expression.  A cursor and its twin therefore
answer every script of actions alike, and go through the same positions.

For the tokens of a text the twin is the cursor over `tokenize`, which makes the
two ways of reading a text one.
-/

universe u v

namespace MiniLisp

namespace Cursor

variable {σ : Type u} {α : Type v} [Source σ α]

/-- The cursor at the same place over the list of items still in the source. -/
def eager (cursor : Cursor σ α) : Cursor (List α) α where
  passed := cursor.passed
  ahead := cursor.ahead
  source := Source.toList cursor.source

@[simp] theorem ahead_eager (cursor : Cursor σ α) : cursor.eager.ahead = cursor.ahead :=
  rfl

@[simp] theorem position_eager (cursor : Cursor σ α) :
    cursor.eager.position = cursor.position :=
  rfl

theorem drop_eager (cursor : Cursor σ α) : cursor.eager.drop = cursor.drop.eager :=
  rfl

theorem cut_eager (cursor : Cursor σ α) :
    cursor.eager.cut = cursor.cut.map id eager :=
  rfl

theorem seek_eager (target : Nat) (cursor : Cursor σ α) :
    cursor.eager.seek target = (cursor.seek target).map id eager := by
  unfold seek
  change (if target ≤ cursor.held.length then _ else _) = _
  split <;> rfl

/-- Looking ahead commutes with taking the twin: what the source hands out is the head
of the list, and a source that is dry, before and after it is asked, is an empty one. -/
theorem look_eager (cursor : Cursor σ α) : cursor.eager.look = cursor.look.eager := by
  obtain ⟨passed, ahead, source⟩ := cursor
  cases ahead with
  | cons item items => rfl
  | nil =>
      cases given : Source.next source with
      | mk found rest =>
          cases found with
          | none =>
              have before := Source.toList_eq_nil given
              have after := Source.toList_rest_eq_nil given
              simp [look, eager, given, before, after, Source.next]
          | some item =>
              have before := Source.toList_eq_cons given
              simp [look, eager, given, before, Source.next]

theorem next_eager (cursor : Cursor σ α) :
    cursor.eager.next = cursor.next.map id eager := by
  unfold next
  rw [look_eager, ahead_eager]
  cases cursor.look.ahead with
  | nil => rfl
  | cons item items => rfl

theorem next_eager_of_eq {cursor after : Cursor σ α} {found : Option α}
    (stepped : cursor.next = (found, after)) : cursor.eager.next = (found, after.eager) := by
  rw [next_eager, stepped]
  rfl

theorem peek_eager (cursor : Cursor σ α) :
    cursor.eager.peek = cursor.peek.map id eager := by
  unfold peek
  rw [look_eager, ahead_eager]
  rfl

theorem atEnd_eager (cursor : Cursor σ α) :
    cursor.eager.atEnd = cursor.atEnd.map id eager := by
  unfold atEnd
  rw [look_eager, ahead_eager]
  rfl

theorem passWhile_eager (holds : α → Bool) (cursor : Cursor σ α) :
    cursor.eager.passWhile holds = (cursor.passWhile holds).eager := by
  fun_induction passWhile holds cursor with
  | case1 cursor item after stepped satisfied ih =>
      rw [passWhile_of_next_eq_some holds (next_eager_of_eq stepped), if_pos satisfied, ih]
  | case2 cursor item after stepped refused =>
      rw [passWhile_of_next_eq_some holds (next_eager_of_eq stepped), if_neg refused,
        look_eager]
  | case3 cursor after finished =>
      exact passWhile_of_next_eq_none holds (next_eager_of_eq finished)

theorem skipWhile_eager (holds : α → Bool) (cursor : Cursor σ α) :
    cursor.eager.skipWhile holds = (cursor.skipWhile holds).map id eager := by
  unfold skipWhile
  rw [passWhile_eager, look_eager, ahead_eager]
  rfl

theorem skipUntil_eager (stops : α → Bool) (cursor : Cursor σ α) :
    cursor.eager.skipUntil stops = (cursor.skipUntil stops).map id eager :=
  skipWhile_eager _ cursor

theorem acceptAny_eager [BEq α] (wanted : List α) (cursor : Cursor σ α) :
    cursor.eager.acceptAny wanted = (cursor.acceptAny wanted).map id eager := by
  unfold acceptAny
  cases stepped : cursor.next with
  | mk found after =>
      rw [next_eager_of_eq stepped]
      cases found with
      | none => rfl
      | some item =>
          dsimp only
          split
          · rfl
          · rw [look_eager]
            rfl

theorem accept_eager [BEq α] (wanted : α) (cursor : Cursor σ α) :
    cursor.eager.accept wanted = (cursor.accept wanted).map id eager :=
  acceptAny_eager [wanted] cursor

theorem collectOnto_eager (collected : List α) (cursor : Cursor σ α) :
    cursor.eager.collectOnto collected = (cursor.collectOnto collected).map id eager := by
  fun_induction collectOnto collected cursor with
  | case1 collected cursor item after stepped ih =>
      rw [collectOnto_of_next_eq_some collected (next_eager_of_eq stepped), ih]
  | case2 collected cursor after finished =>
      exact collectOnto_of_next_eq_none collected (next_eager_of_eq finished)

theorem collect_eager (cursor : Cursor σ α) :
    cursor.eager.collect = cursor.collect.map id eager :=
  collectOnto_eager [] cursor

theorem perform_eager [BEq α] (action : Action α) (cursor : Cursor σ α) :
    cursor.eager.perform action = (cursor.perform action).map id eager := by
  cases action with
  | next => exact congrArg (Prod.map Answer.item id) (next_eager cursor)
  | peek => exact congrArg (Prod.map Answer.item id) (peek_eager cursor)
  | atEnd => exact congrArg (Prod.map Answer.flag id) (atEnd_eager cursor)
  | seek target => exact congrArg (Prod.map Answer.flag id) (seek_eager target cursor)
  | cut => exact congrArg (Prod.map Answer.items id) (cut_eager cursor)
  | drop => exact congrArg (Prod.mk Answer.done) (drop_eager cursor)
  | collect => exact congrArg (Prod.map Answer.items id) (collect_eager cursor)
  | skipWhile holds => exact congrArg (Prod.map Answer.flag id) (skipWhile_eager holds cursor)
  | skipUntil stops => exact congrArg (Prod.map Answer.flag id) (skipUntil_eager stops cursor)
  | accept wanted => exact congrArg (Prod.map Answer.item id) (accept_eager wanted cursor)
  | acceptAny wanted => exact congrArg (Prod.map Answer.item id) (acceptAny_eager wanted cursor)

end Cursor

section Reading

variable {σ : Type u} [Source σ String]

theorem Reader.resume_eager (opened : List (List Expr)) (cursor : Cursor σ String) :
    resume opened cursor.eager = (resume opened cursor).map id Cursor.eager := by
  fun_induction resume opened cursor with
  | case1 opened cursor after finished =>
      exact resume_of_next_eq_none (Cursor.next_eager_of_eq finished)
  | case2 opened cursor token after stepped opened' pending ih =>
      rw [resume_of_next_eq_some (Cursor.next_eager_of_eq stepped), pending]
      exact ih
  | case3 opened cursor token after stepped expr finished =>
      rw [resume_of_next_eq_some (Cursor.next_eager_of_eq stepped), finished]
      rfl
  | case4 opened cursor token after stepped error failed =>
      rw [resume_of_next_eq_some (Cursor.next_eager_of_eq stepped), failed]
      rfl

namespace Cursor

theorem read_eager (cursor : Cursor σ String) :
    cursor.eager.read = cursor.read.map id eager :=
  Reader.resume_eager [] cursor

/-- One step on a cursor over tokens: an action of any cursor, or reading an
expression. -/
inductive TokenAction where
  | scan (action : Action String)
  | read

inductive TokenAnswer where
  | scanned (answer : Answer String)
  | read (result : Except ReadError Expr)

def handle (action : TokenAction) (cursor : Cursor σ String) :
    TokenAnswer × Cursor σ String :=
  match action with
  | .scan action => (cursor.perform action).map .scanned id
  | .read => cursor.read.map .read id

/-- The answers to a script of steps, each with the position after it. -/
def replies (script : List TokenAction) (cursor : Cursor σ String) :
    List (TokenAnswer × Nat) :=
  match script with
  | [] => []
  | action :: later =>
      let (answer, after) := cursor.handle action
      (answer, after.position) :: after.replies later

theorem handle_eager (action : TokenAction) (cursor : Cursor σ String) :
    cursor.eager.handle action = (cursor.handle action).map id eager := by
  cases action with
  | scan action => exact congrArg (Prod.map TokenAnswer.scanned id) (perform_eager action cursor)
  | read => exact congrArg (Prod.map TokenAnswer.read id) (read_eager cursor)

/-- A cursor and its twin answer every script alike, whatever has happened before. -/
theorem replies_eager (script : List TokenAction) (cursor : Cursor σ String) :
    cursor.eager.replies script = cursor.replies script := by
  induction script generalizing cursor with
  | nil => rfl
  | cons action later ih =>
      simp only [replies, handle_eager, Prod.map_fst, Prod.map_snd, id_eq, position_eager, ih]

end Cursor

end Reading

/-- Before anything is read, the twin of the cursor over the tokens of a text is the
cursor over the list of those tokens. -/
theorem eager_tokenCursor (text : String) :
    (tokenCursor text).eager = Cursor.ofSource (tokenize text) := by
  rw [tokenize, Cursor.collect_fst]
  rfl

/-- Whether a text is cut into tokens as they are wanted or beforehand cannot be told:
every script of steps has the same answers and positions on both cursors, and reading
the text is reading the list of its tokens. -/
theorem replies_tokenCursor (text : String) :
    (∀ script : List Cursor.TokenAction,
      (tokenCursor text).replies script =
        (Cursor.ofSource (tokenize text)).replies script) ∧
      readText text = readTokens (tokenize text) := by
  constructor
  · intro script
    rw [← eager_tokenCursor, Cursor.replies_eager]
  · have sameResult : (tokenCursor text).eager.read.1 = (tokenCursor text).read.1 := by
      rw [Cursor.read_eager, Prod.map_fst, id_eq]
    rw [readText, readTokens, ← eager_tokenCursor, sameResult]

end MiniLisp
