import MiniLisp.Cursor.Basic

/-!
# Scripts of cursor actions

Whoever holds a cursor learns about it only through the answers to its actions
and through its position.  An action as a value, the answer it gives and the
list of answers to a script make that knowledge something to compare: two
cursors that answer every script alike cannot be told apart.
-/

universe u v

namespace MiniLisp

namespace Cursor

inductive Action (α : Type v) where
  | next
  | peek
  | atEnd
  | seek (target : Nat)
  | cut
  | drop
  | collect
  | skipWhile (holds : α → Bool)
  | skipUntil (stops : α → Bool)
  | accept (wanted : α)
  | acceptAny (wanted : List α)

inductive Answer (α : Type v) where
  | item (found : Option α)
  | items (stretch : List α)
  | flag (holds : Bool)
  | done
deriving DecidableEq

variable {σ : Type u} {α : Type v} [Source σ α] [BEq α]

def perform (action : Action α) (cursor : Cursor σ α) : Answer α × Cursor σ α :=
  match action with
  | .next => cursor.next.map .item id
  | .peek => cursor.peek.map .item id
  | .atEnd => cursor.atEnd.map .flag id
  | .seek target => (cursor.seek target).map .flag id
  | .cut => cursor.cut.map .items id
  | .drop => (.done, cursor.drop)
  | .collect => cursor.collect.map .items id
  | .skipWhile holds => (cursor.skipWhile holds).map .flag id
  | .skipUntil stops => (cursor.skipUntil stops).map .flag id
  | .accept wanted => (cursor.accept wanted).map .item id
  | .acceptAny wanted => (cursor.acceptAny wanted).map .item id

/-- The answers to a script of actions, each with the position after it. -/
def answers (script : List (Action α)) (cursor : Cursor σ α) : List (Answer α × Nat) :=
  match script with
  | [] => []
  | action :: later =>
      let (answer, after) := cursor.perform action
      (answer, after.position) :: after.answers later

end Cursor

end MiniLisp
