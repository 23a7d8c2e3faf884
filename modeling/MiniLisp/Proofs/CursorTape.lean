import MiniLisp.Cursor.Script
import MiniLisp.Proofs.ReadingOutcome

/-!
# Cursors as places in a complete list

A cursor pulls items from its source as it needs them, holds some and lets others go.
All that it answers can be read off the complete list of items with three numbers
instead: a base, before which everything has been let go, the position past the base,
and a mark, which is as far past the base as an item has ever been passed or looked at.
Such a list is a tape here, and each action on it is a rule about the numbers.

The tape of a cursor puts together what was let go, what is held and what the source
has still to give.  An action changes the numbers of the tape by its rule and leaves the
items, whether it passes items, looks at one, goes back or lets go.  So no item is ever
lost, repeated or moved, and the mark is the number of items held.
-/

universe u v

namespace MiniLisp

/-- A complete list of items, with the places of a cursor in it. -/
@[ext]
structure Tape (α : Type v) where
  items : List α
  /-- How many items have been let go. -/
  base : Nat
  /-- How many items past the base have been passed. -/
  position : Nat
  /-- How many items past the base have ever been passed or looked at. -/
  mark : Nat

namespace Tape

variable {α : Type v}

def ofList (items : List α) : Tape α where
  items := items
  base := 0
  position := 0
  mark := 0

def item? (tape : Tape α) : Option α :=
  tape.items[tape.base + tape.position]?

def toCome (tape : Tape α) : List α :=
  tape.items.drop (tape.base + tape.position)

def advance (count : Nat) (tape : Tape α) : Tape α :=
  { tape with
    position := tape.position + count
    mark := max tape.mark (tape.position + count) }

def look (tape : Tape α) : Tape α :=
  match tape.item? with
  | some _ => { tape with mark := max tape.mark (tape.position + 1) }
  | none => tape

def next (tape : Tape α) : Option α × Tape α :=
  match tape.item? with
  | some item => (some item, tape.advance 1)
  | none => (none, tape)

def seek (target : Nat) (tape : Tape α) : Bool × Tape α :=
  if target ≤ tape.mark then (true, { tape with position := target }) else (false, tape)

def drop (tape : Tape α) : Tape α where
  items := tape.items
  base := tape.base + tape.position
  position := 0
  mark := tape.mark - tape.position

def cut (tape : Tape α) : List α × Tape α :=
  ((tape.items.drop tape.base).take tape.position, tape.drop)

def collect (tape : Tape α) : List α × Tape α :=
  (tape.toCome, tape.advance tape.toCome.length)

/-- Advance over the longest run of items that satisfy a test, and look at the item that
ends it. -/
def skipWhile (holds : α → Bool) (tape : Tape α) : Bool × Tape α :=
  let run := tape.toCome.takeWhile holds
  (!run.isEmpty, (tape.advance run.length).look)

def acceptAny [BEq α] (wanted : List α) (tape : Tape α) : Option α × Tape α :=
  match tape.item? with
  | some item =>
      if wanted.contains item then (some item, tape.advance 1) else (none, tape.look)
  | none => (none, tape)

open Cursor (Action Answer)

/-- The answer to an action, by the rules, and the tape after it. -/
def perform [BEq α] (action : Action α) (tape : Tape α) : Answer α × Tape α :=
  match action with
  | .next => tape.next.map .item id
  | .peek => (.item tape.item?, tape.look)
  | .atEnd => (.flag tape.item?.isNone, tape.look)
  | .seek target => (tape.seek target).map .flag id
  | .cut => tape.cut.map .items id
  | .drop => (.done, tape.drop)
  | .collect => tape.collect.map .items id
  | .skipWhile holds => (tape.skipWhile holds).map .flag id
  | .skipUntil stops => (tape.skipWhile fun item => !stops item).map .flag id
  | .accept wanted => (tape.acceptAny [wanted]).map .item id
  | .acceptAny wanted => (tape.acceptAny wanted).map .item id

/-- The answers to a script of actions, each with the position after it. -/
def answers [BEq α] (script : List (Action α)) (tape : Tape α) : List (Answer α × Nat) :=
  match script with
  | [] => []
  | action :: later =>
      let (answer, after) := tape.perform action
      (answer, after.position) :: after.answers later

def after [BEq α] (script : List (Action α)) (tape : Tape α) : Tape α :=
  script.foldl (fun tape action => (tape.perform action).2) tape

theorem advance_advance (count later : Nat) (tape : Tape α) :
    (tape.advance count).advance later = tape.advance (count + later) := by
  apply Tape.ext
  · rfl
  · rfl
  · exact Nat.add_assoc _ _ _
  · simp only [advance]
    omega

theorem advance_zero {tape : Tape α} (bound : tape.position ≤ tape.mark) :
    tape.advance 0 = tape := by
  apply Tape.ext
  · rfl
  · rfl
  · rfl
  · exact Nat.max_eq_left bound

theorem look_of_item?_eq_some {tape : Tape α} {item : α} (found : tape.item? = some item) :
    tape.look = { tape with mark := max tape.mark (tape.position + 1) } := by
  rw [look, found]

theorem look_of_item?_eq_none {tape : Tape α} (nothing : tape.item? = none) :
    tape.look = tape := by
  rw [look, nothing]

@[simp] theorem items_look (tape : Tape α) : tape.look.items = tape.items := by
  unfold look
  split <;> rfl

theorem items_perform [BEq α] (action : Action α) (tape : Tape α) :
    (tape.perform action).2.items = tape.items := by
  have keepsNext : tape.next.2.items = tape.items := by
    unfold next
    split <;> rfl
  have keepsSeek (target : Nat) : (tape.seek target).2.items = tape.items := by
    unfold seek
    split <;> rfl
  have keepsAcceptAny (wanted : List α) : (tape.acceptAny wanted).2.items = tape.items := by
    unfold acceptAny
    split
    · split
      · rfl
      · exact items_look tape
    · rfl
  cases action with
  | next => exact keepsNext
  | peek => exact items_look tape
  | atEnd => exact items_look tape
  | seek target => exact keepsSeek target
  | cut => rfl
  | drop => rfl
  | collect => rfl
  | skipWhile holds => exact items_look _
  | skipUntil stops => exact items_look _
  | accept wanted => exact keepsAcceptAny [wanted]
  | acceptAny wanted => exact keepsAcceptAny wanted

theorem items_after [BEq α] (script : List (Action α)) (tape : Tape α) :
    (tape.after script).items = tape.items := by
  induction script generalizing tape with
  | nil => rfl
  | cons action later ih => exact (ih _).trans (items_perform action tape)

end Tape

namespace Cursor

variable {σ : Type u} {α : Type v} [Source σ α]

/-- The tape of a cursor that has let go of some items. -/
def tape (released : List α) (cursor : Cursor σ α) : Tape α where
  items := released ++ cursor.held ++ Source.toList cursor.source
  base := released.length
  position := cursor.position
  mark := cursor.held.length

variable (released : List α)

theorem items_tape (cursor : Cursor σ α) :
    (cursor.tape released).items =
      released ++ (cursor.passed.reverse ++ cursor.remaining) := by
  simp only [tape, held, remaining, List.append_assoc]

theorem toCome_tape (cursor : Cursor σ α) :
    (cursor.tape released).toCome = cursor.remaining := by
  rw [Tape.toCome, items_tape, ← List.append_assoc]
  exact List.drop_left' (by simp [tape, position])

theorem item?_tape (cursor : Cursor σ α) :
    (cursor.tape released).item? = cursor.remaining.head? := by
  rw [← toCome_tape released, Tape.toCome, List.head?_drop]
  rfl

omit [Source σ α] in
theorem position_le_length_held (cursor : Cursor σ α) :
    cursor.position ≤ cursor.held.length := by
  simp [position, held]

/-- A cursor that passes items advances on its tape. -/
theorem Advanced.tape_eq {before after : Cursor σ α} {count : Nat}
    (advanced : before.Advanced count after) :
    after.tape released = (before.tape released).advance count := by
  apply Tape.ext
  · change _ = (before.tape released).items
    rw [items_tape, items_tape, advanced.passed, advanced.remaining_eq, List.reverse_append,
      List.reverse_reverse, List.append_assoc, List.take_append_drop]
  · rfl
  · exact advanced.position_eq
  · have enough := advanced.count_le
    have moved := advanced.position_eq
    simp only [position] at moved
    simp only [tape, Tape.advance, held, position, advanced.ahead, List.length_append,
      List.length_reverse, List.length_drop]
    omega

theorem look_tape (cursor : Cursor σ α) :
    cursor.look.tape released = (cursor.tape released).look := by
  have found := item?_tape released cursor
  obtain ⟨passed, ahead, source⟩ := cursor
  cases ahead with
  | cons item items =>
      rw [Tape.look_of_item?_eq_some found]
      apply Tape.ext
      · rfl
      · rfl
      · rfl
      · simp only [tape, look, held, position, List.length_append, List.length_reverse,
          List.length_cons]
        omega
  | nil =>
      cases given : Source.next source with
      | mk next rest =>
          cases next with
          | none =>
              have before := Source.toList_eq_nil given
              have after := Source.toList_rest_eq_nil given
              simp only [remaining, before] at found
              rw [Tape.look_of_item?_eq_none found]
              simp only [look, given, tape, held, position, before, after]
          | some item =>
              have before := Source.toList_eq_cons given
              simp only [remaining, before] at found
              rw [Tape.look_of_item?_eq_some found]
              simp only [look, given]
              apply Tape.ext
              · simp [tape, held, before]
              · rfl
              · rfl
              · simp [tape, held, position]

theorem next_tape (cursor : Cursor σ α) :
    (cursor.tape released).next = cursor.next.map id (tape released) := by
  cases stepped : cursor.next with
  | mk found after =>
      cases found with
      | some item =>
          have first := item?_tape released cursor
          rw [(of_next_eq_some stepped).1, List.head?_cons] at first
          rw [Tape.next, first]
          exact congrArg (Prod.mk (some item))
            ((advanced_of_next_eq_some stepped).tape_eq released).symm
      | none =>
          have first := item?_tape released cursor
          rw [(of_next_eq_none stepped).1, List.head?_nil] at first
          rw [Tape.next, first, (eq_look_of_next stepped).1]
          refine congrArg (Prod.mk none) ?_
          rw [look_tape, Tape.look_of_item?_eq_none first]

theorem seek_tape (target : Nat) (cursor : Cursor σ α) :
    (cursor.tape released).seek target = (cursor.seek target).map id (tape released) := by
  unfold seek Tape.seek
  change (if target ≤ cursor.held.length then _ else _) = _
  split
  · next reachable =>
      refine congrArg (Prod.mk true) (Tape.ext ?_ rfl ?_ ?_)
      · simp [tape, held]
      · simp [tape, position, Nat.min_eq_left reachable]
      · simp only [tape, held, List.reverse_reverse, List.take_append_drop]
  · rfl

/-- Letting go of the items passed moves the base of the tape. -/
theorem drop_tape (cursor : Cursor σ α) :
    (cursor.tape released).drop = cursor.drop.tape (released ++ cursor.cut.1) := by
  apply Tape.ext
  · simp [tape, Tape.drop, drop, cut, held]
  · simp [tape, Tape.drop, cut, position]
  · rfl
  · simp [tape, Tape.drop, drop, held, position]

theorem cut_tape (cursor : Cursor σ α) :
    (cursor.tape released).cut = cursor.cut.map id (tape (released ++ cursor.cut.1)) := by
  refine Prod.ext ?_ (drop_tape released cursor)
  change ((cursor.tape released).items.drop released.length).take cursor.position =
    cursor.passed.reverse
  rw [items_tape, List.drop_left, List.take_left' (by simp [position])]

theorem passWhile_tape (holds : α → Bool) (cursor : Cursor σ α) :
    (cursor.passWhile holds).tape released =
      ((cursor.tape released).advance (cursor.remaining.takeWhile holds).length).look := by
  fun_induction passWhile holds cursor with
  | case1 cursor item after stepped satisfied ih =>
      rw [ih, (advanced_of_next_eq_some stepped).tape_eq released, Tape.advance_advance,
        (of_next_eq_some stepped).1, List.takeWhile_cons_of_pos satisfied, List.length_cons,
        Nat.add_comm]
  | case2 cursor item after stepped refused =>
      rw [look_tape, (of_next_eq_some stepped).1, List.takeWhile_cons_of_neg refused,
        List.length_nil, Tape.advance_zero (position_le_length_held cursor)]
  | case3 cursor after finished =>
      rw [(eq_look_of_next finished).1, look_tape, (of_next_eq_none finished).1,
        List.takeWhile_nil, List.length_nil, Tape.advance_zero (position_le_length_held cursor)]

theorem skipWhile_tape (holds : α → Bool) (cursor : Cursor σ α) :
    (cursor.tape released).skipWhile holds =
      (cursor.skipWhile holds).map id (tape released) := by
  rw [Tape.skipWhile, toCome_tape]
  refine Prod.ext ?_ (passWhile_tape released holds cursor).symm
  change (!(cursor.remaining.takeWhile holds).isEmpty) = (cursor.skipWhile holds).1
  rw [skipWhile_fst]
  cases cursor.remaining with
  | nil => rfl
  | cons item items => cases satisfied : holds item <;> simp [satisfied]

theorem acceptAny_tape [BEq α] (wanted : List α) (cursor : Cursor σ α) :
    (cursor.tape released).acceptAny wanted =
      (cursor.acceptAny wanted).map id (tape released) := by
  have stepOnTape := next_tape released cursor
  unfold Tape.next at stepOnTape
  unfold Tape.acceptAny acceptAny
  cases stepped : cursor.next with
  | mk found after =>
      rw [stepped] at stepOnTape
      cases first : (cursor.tape released).item? with
      | none =>
          rw [first] at stepOnTape
          obtain ⟨rfl, sameTape⟩ := Prod.mk.inj stepOnTape
          exact congrArg (Prod.mk none) sameTape
      | some item =>
          rw [first] at stepOnTape
          obtain ⟨rfl, sameTape⟩ := Prod.mk.inj stepOnTape
          dsimp only [id_eq]
          split
          · exact congrArg (Prod.mk (some item)) sameTape
          · exact congrArg (Prod.mk none) (look_tape released cursor).symm

theorem collectOnto_tape (collected : List α) (cursor : Cursor σ α) :
    (cursor.collectOnto collected).2.tape released =
      (cursor.tape released).advance cursor.remaining.length := by
  fun_induction collectOnto collected cursor with
  | case1 collected cursor item after stepped ih =>
      rw [ih, (advanced_of_next_eq_some stepped).tape_eq released, Tape.advance_advance,
        (of_next_eq_some stepped).1, List.length_cons, Nat.add_comm]
  | case2 collected cursor after finished =>
      rw [(advanced_of_next_eq_none finished).tape_eq released, (of_next_eq_none finished).1,
        List.length_nil]

theorem collect_tape (cursor : Cursor σ α) :
    (cursor.tape released).collect = cursor.collect.map id (tape released) := by
  rw [Tape.collect, toCome_tape]
  exact Prod.ext (collect_fst cursor).symm (collectOnto_tape released [] cursor).symm

/-- The items that an action lets go. -/
def releasedBy (action : Action α) (cursor : Cursor σ α) : List α :=
  match action with
  | .cut | .drop => cursor.cut.1
  | .next | .peek | .atEnd | .seek _ | .collect | .skipWhile _ | .skipUntil _ | .accept _
  | .acceptAny _ => []

section Scripts

variable [BEq α]

/-- One action on a cursor is the same action on its tape. -/
theorem perform_tape (action : Action α) (cursor : Cursor σ α) :
    (cursor.tape released).perform action =
      (cursor.perform action).map id (tape (released ++ cursor.releasedBy action)) := by
  cases action
  case cut => exact congrArg (Prod.map Answer.items id) (cut_tape released cursor)
  case drop => exact congrArg (Prod.mk Answer.done) (drop_tape released cursor)
  -- No other action lets anything go.
  all_goals rw [releasedBy, List.append_nil]
  case next => exact congrArg (Prod.map Answer.item id) (next_tape released cursor)
  case peek =>
    refine Prod.ext (congrArg Answer.item ?_) (look_tape released cursor).symm
    rw [item?_tape, ← head?_look]
  case atEnd =>
    refine Prod.ext (congrArg Answer.flag ?_) (look_tape released cursor).symm
    rw [item?_tape, ← head?_look]
    cases cursor.look.ahead <;> rfl
  case seek target =>
    exact congrArg (Prod.map Answer.flag id) (seek_tape released target cursor)
  case collect => exact congrArg (Prod.map Answer.items id) (collect_tape released cursor)
  case skipWhile holds =>
    exact congrArg (Prod.map Answer.flag id) (skipWhile_tape released holds cursor)
  case skipUntil stops =>
    exact congrArg (Prod.map Answer.flag id) (skipWhile_tape released _ cursor)
  case accept wanted =>
    exact congrArg (Prod.map Answer.item id) (acceptAny_tape released [wanted] cursor)
  case acceptAny wanted =>
    exact congrArg (Prod.map Answer.item id) (acceptAny_tape released wanted cursor)

def after (script : List (Action α)) (cursor : Cursor σ α) : Cursor σ α :=
  script.foldl (fun cursor action => (cursor.perform action).2) cursor

/-- All that a script lets go, in order. -/
def releases (script : List (Action α)) (cursor : Cursor σ α) : List α :=
  match script with
  | [] => []
  | action :: later =>
      cursor.releasedBy action ++ (cursor.perform action).2.releases later

theorem answers_tape (script : List (Action α)) (cursor : Cursor σ α) :
    (cursor.tape released).answers script = cursor.answers script := by
  induction script generalizing released cursor with
  | nil => rfl
  | cons action later ih =>
      simp only [Tape.answers, answers, perform_tape, Prod.map_fst, Prod.map_snd, id_eq, ih]
      rfl

theorem after_tape (script : List (Action α)) (cursor : Cursor σ α) :
    (cursor.tape released).after script =
      (cursor.after script).tape (released ++ cursor.releases script) := by
  induction script generalizing released cursor with
  | nil => exact congrArg (tape · cursor) (List.append_nil released).symm
  | cons action later ih =>
      change Tape.after later ((cursor.tape released).perform action).2 = _
      rw [perform_tape, releases, ← List.append_assoc]
      exact ih _ _

end Scripts

/-- The item that a cursor looks at is the one held at its position. -/
theorem peek_fst_eq_getElem? (cursor : Cursor σ α) :
    cursor.peek.1 = cursor.peek.2.held[cursor.position]? := by
  have behind : cursor.look.passed.reverse.length = cursor.position := by
    rw [passed_look, List.length_reverse, position]
  change cursor.look.ahead.head? = (cursor.look.passed.reverse ++ cursor.look.ahead)[_]?
  rw [List.getElem?_append_right (Nat.le_of_eq behind), behind, Nat.sub_self,
    List.head?_eq_getElem?]

theorem tape_ofSource (source : σ) :
    (ofSource source : Cursor σ α).tape [] = Tape.ofList (Source.toList source) :=
  rfl

/-- Whatever is done with a cursor, its answers and positions are those of the places in
the complete list.  All the while the items let go, those held and those still in the
source are the complete list, and the position is within the items held. -/
theorem answers_ofSource [BEq α] (source : σ) (script : List (Action α)) :
    let start : Cursor σ α := ofSource source
    let list : Tape α := .ofList (Source.toList source)
    let cursor := start.after script
    start.answers script = list.answers script ∧
      (list.after script).base = (start.releases script).length ∧
      (list.after script).position = cursor.position ∧
      (list.after script).mark = cursor.held.length ∧
      start.releases script ++ cursor.held ++ Source.toList cursor.source =
        Source.toList source ∧
      cursor.position ≤ cursor.held.length ∧
      cursor.peek.1 = cursor.peek.2.held[cursor.position]? := by
  intro start list cursor
  have isTape : start.tape [] = list := tape_ofSource source
  have reached : list.after script = cursor.tape (start.releases script) := by
    rw [← isTape, after_tape, List.nil_append]
  have sameItems : (list.after script).items = list.items := Tape.items_after script list
  refine ⟨?_, ?_, ?_, ?_, ?_, position_le_length_held cursor, peek_fst_eq_getElem? cursor⟩
  · rw [← isTape, answers_tape]
  · rw [reached]
    rfl
  · rw [reached]
    rfl
  · rw [reached]
    rfl
  · rw [reached] at sameItems
    exact sameItems

end Cursor

end MiniLisp
