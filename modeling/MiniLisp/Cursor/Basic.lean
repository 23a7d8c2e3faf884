import MiniLisp.Source

/-!
# Cursors

A cursor reads a source item by item and keeps what it has read until it is
told to let go.  It holds the items passed since the last cut, and after them
the items that were pulled from the source but not passed yet; between the two
lies its position.  Looking ahead pulls at most one item, going back is free as
far as items are held, and a cut hands over the items passed and starts a new
stretch at position zero.

Nothing is pulled before an operation needs it: each operation below leaves in
the source whatever it did not have to see.  A cursor is itself a source, whose
items to come are those ahead and then those still in its own source.
-/

universe u v

namespace MiniLisp

/-- A position in a source, with the items held on either side of it. -/
structure Cursor (σ : Type u) (α : Type v) where
  /-- The items passed since the last cut, the newest first. -/
  passed : List α
  /-- The items pulled from the source but not passed, in order. -/
  ahead : List α
  source : σ

namespace Cursor

variable {σ : Type u} {α : Type v}

def ofSource (source : σ) : Cursor σ α where
  passed := []
  ahead := []
  source := source

/-- The number of items passed since the last cut. -/
def position (cursor : Cursor σ α) : Nat :=
  cursor.passed.length

/-- The items held, in order: those passed and then those ahead. -/
def held (cursor : Cursor σ α) : List α :=
  cursor.passed.reverse ++ cursor.ahead

/-- Move to a position among the items held.  A position past them is refused
and changes nothing. -/
def seek (target : Nat) (cursor : Cursor σ α) : Bool × Cursor σ α :=
  if target ≤ cursor.held.length then
    (true,
      { cursor with
        passed := (cursor.held.take target).reverse
        ahead := cursor.held.drop target })
  else
    (false, cursor)

def drop (cursor : Cursor σ α) : Cursor σ α :=
  { cursor with passed := [] }

/-- Hand over the items passed, and let go of them. -/
def cut (cursor : Cursor σ α) : List α × Cursor σ α :=
  (cursor.passed.reverse, cursor.drop)

variable [Source σ α]

def size (cursor : Cursor σ α) : Nat :=
  cursor.ahead.length + Source.size cursor.source

/-- The items to come: those ahead and then those still in the source. -/
def remaining (cursor : Cursor σ α) : List α :=
  cursor.ahead ++ Source.toList cursor.source

/-- Make sure that the next item, if there is one, is ahead. -/
def look (cursor : Cursor σ α) : Cursor σ α :=
  match cursor.ahead with
  | _ :: _ => cursor
  | [] =>
    match Source.next cursor.source with
    | (none, rest) => { cursor with source := rest }
    | (some item, rest) => { cursor with ahead := [item], source := rest }

def next (cursor : Cursor σ α) : Option α × Cursor σ α :=
  match cursor.look.ahead with
  | item :: ahead => (some item, { cursor.look with passed := item :: cursor.passed, ahead })
  | [] => (none, cursor.look)

theorem size_look_le (cursor : Cursor σ α) : cursor.look.size ≤ cursor.size := by
  unfold look
  split
  · exact Nat.le_refl _
  · next empty =>
    split
    · next dry =>
      exact Nat.add_le_add_left (Source.size_le_of_next dry) _
    · next given =>
      have smaller := Source.size_lt_of_next given
      simp only [size, empty, List.length_cons, List.length_nil]
      omega

theorem size_lt_of_next {cursor after : Cursor σ α} {item : α}
    (stepped : cursor.next = (some item, after)) : after.size < cursor.size := by
  have looked := size_look_le cursor
  unfold next at stepped
  split at stepped
  · next found =>
    cases stepped
    simp only [size, found, List.length_cons] at looked ⊢
    omega
  · cases stepped

theorem eq_look_of_next {cursor after : Cursor σ α} (finished : cursor.next = (none, after)) :
    after = cursor.look ∧ cursor.look.ahead = [] := by
  unfold next at finished
  split at finished
  · cases finished
  · next empty =>
    cases finished
    exact ⟨rfl, empty⟩

theorem ahead_look_look {cursor : Cursor σ α} (empty : cursor.look.ahead = []) :
    cursor.look.look.ahead = [] := by
  unfold look at empty
  split at empty
  · next shape => simp [shape] at empty
  · next shape =>
    split at empty
    · next dry =>
      have still := Source.next_of_dry dry
      simp only [look, shape, dry]
      split
      · rfl
      · next given => simp [given] at still
    · cases empty

instance : Source (Cursor σ α) α where
  next := next
  size := size
  size_lt_of_next := size_lt_of_next
  size_le_of_next := by
    intro cursor after finished
    rw [(eq_look_of_next finished).1]
    exact size_look_le cursor
  next_of_dry := by
    intro cursor after finished
    obtain ⟨rfl, empty⟩ := eq_look_of_next finished
    simp [next, ahead_look_look empty]

def peek (cursor : Cursor σ α) : Option α × Cursor σ α :=
  (cursor.look.ahead.head?, cursor.look)

def atEnd (cursor : Cursor σ α) : Bool × Cursor σ α :=
  (cursor.look.ahead.isEmpty, cursor.look)

/-- Pass items as long as they satisfy a test.  The item that fails it is
looked at and stays ahead. -/
def passWhile (holds : α → Bool) (cursor : Cursor σ α) : Cursor σ α :=
  match _ : cursor.next with
  | (some item, after) => if holds item then passWhile holds after else cursor.look
  | (none, after) => after
termination_by cursor.size
decreasing_by exact size_lt_of_next ‹_›

def skipWhile (holds : α → Bool) (cursor : Cursor σ α) : Bool × Cursor σ α :=
  (cursor.look.ahead.head?.any holds, cursor.passWhile holds)

/-- Pass items up to the first that satisfies a test, and say whether there was
one to pass. -/
def skipUntil (stops : α → Bool) (cursor : Cursor σ α) : Bool × Cursor σ α :=
  cursor.skipWhile fun item => !stops item

def acceptAny [BEq α] (wanted : List α) (cursor : Cursor σ α) : Option α × Cursor σ α :=
  match cursor.next with
  | (some item, after) =>
      if wanted.contains item then (some item, after) else (none, cursor.look)
  | (none, after) => (none, after)

def accept [BEq α] (wanted : α) (cursor : Cursor σ α) : Option α × Cursor σ α :=
  cursor.acceptAny [wanted]

/-- Pass all items to come on top of some collected before, the newest first. -/
def collectOnto (collected : List α) (cursor : Cursor σ α) : List α × Cursor σ α :=
  match _ : cursor.next with
  | (some item, after) => collectOnto (item :: collected) after
  | (none, after) => (collected.reverse, after)
termination_by cursor.size
decreasing_by exact size_lt_of_next ‹_›

def collect (cursor : Cursor σ α) : List α × Cursor σ α :=
  cursor.collectOnto []

theorem size_passWhile_le (holds : α → Bool) (cursor : Cursor σ α) :
    (cursor.passWhile holds).size ≤ cursor.size := by
  fun_induction passWhile holds cursor with
  | case1 cursor item after stepped satisfied ih =>
      exact Nat.le_trans ih (Nat.le_of_lt (size_lt_of_next stepped))
  | case2 cursor item after stepped refused => exact size_look_le cursor
  | case3 cursor after finished =>
      rw [(eq_look_of_next finished).1]
      exact size_look_le cursor

theorem head?_look_of_next {cursor after : Cursor σ α} {item : α}
    (stepped : cursor.next = (some item, after)) :
    cursor.look.ahead.head? = some item := by
  unfold next at stepped
  split at stepped
  · next found =>
    cases stepped
    simp [found]
  · cases stepped

theorem size_skipWhile_lt {holds : α → Bool} {cursor after : Cursor σ α}
    (skipped : cursor.skipWhile holds = (true, after)) : after.size < cursor.size := by
  simp only [skipWhile, Prod.mk.injEq] at skipped
  obtain ⟨moved, rfl⟩ := skipped
  unfold passWhile
  split
  · next item after stepped =>
    rw [head?_look_of_next stepped, Option.any_some] at moved
    rw [if_pos moved]
    exact Nat.lt_of_le_of_lt (size_passWhile_le holds after) (size_lt_of_next stepped)
  · next after finished => simp [(eq_look_of_next finished).2] at moved

theorem size_skipWhile_le (holds : α → Bool) (cursor : Cursor σ α) :
    (cursor.skipWhile holds).2.size ≤ cursor.size :=
  size_passWhile_le holds cursor

theorem size_acceptAny_lt [BEq α] {wanted : List α} {cursor after : Cursor σ α} {item : α}
    (accepted : cursor.acceptAny wanted = (some item, after)) : after.size < cursor.size := by
  unfold acceptAny at accepted
  split at accepted
  · next stepped =>
    split at accepted
    · cases accepted
      exact size_lt_of_next stepped
    · cases accepted
  · cases accepted

theorem eq_look_of_acceptAny [BEq α] {wanted : List α} {cursor after : Cursor σ α}
    (refused : cursor.acceptAny wanted = (none, after)) : after = cursor.look := by
  unfold acceptAny at refused
  split at refused
  · split at refused
    · cases refused
    · cases refused
      rfl
  · next finished =>
    cases refused
    exact (eq_look_of_next finished).1

end Cursor

end MiniLisp
