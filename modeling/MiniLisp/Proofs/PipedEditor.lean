import MiniLisp.Proofs.EditorLaws
import MiniLisp.Terminal.Piped

/-!
# Piped input as a line editor

Whatever it makes of a line that is typed, the world of piped input fulfils what is assumed of a
line editor.  The lines read are those of the input, each as it is after it has been edited, and
a line that comes to nothing cannot be read.  A file of entries is split again into the lines
that it was put together from.
-/

namespace MiniLisp

namespace Piped

open LineEditor

variable {edit? : String → Option String}

def edited (edit? : String → Option String) : InputLine → InputLine
  | .garbled => .garbled
  | .text typed => (edit? typed).elim .garbled .text

/-- The lines still to be read. -/
def pending (world : Piped edit?) : List InputLine :=
  world.input.map (edited edit?)

/-- Reading a line writes the prompt and leaves everything but the input as it is. -/
theorem readLine_snd (prompt : String) (world : Piped edit?) :
    (readLine prompt world).2.output = world.output ++ prompt ∧
      (readLine prompt world).2.entries = world.entries ∧
      (readLine prompt world).2.changed = world.changed ∧
      (readLine prompt world).2.files = world.files := by
  unfold readLine
  dsimp only
  split
  · exact ⟨rfl, rfl, rfl, rfl⟩
  · exact ⟨rfl, rfl, rfl, rfl⟩
  · split <;> exact ⟨rfl, rfl, rfl, rfl⟩

/-- An entry makes a difference to the history only. -/
theorem frame_addEntry (line : String) (world : Piped edit?) :
    (addEntry line world).input = world.input ∧ (addEntry line world).output = world.output ∧
      (addEntry line world).files = world.files := by
  unfold addEntry
  split <;> exact ⟨rfl, rfl, rfl⟩

theorem frame_loadHistory (path : String) (world : Piped edit?) :
    (loadHistory path world).input = world.input ∧
      (loadHistory path world).output = world.output ∧
      (loadHistory path world).files = world.files := by
  unfold loadHistory
  split <;> exact ⟨rfl, rfl, rfl⟩

theorem readsLines : ReadsLines (@pending edit?) where
  line := by
    rintro ⟨input, output, entries, changed, files, aborted⟩ line later isNext prompt
    obtain ⟨first, others, rfl, isLine, rfl⟩ := List.map_eq_cons_iff.1 isNext
    cases first with
    | garbled => cases isLine
    | text typed =>
        cases read : edit? typed with
        | none =>
            rw [edited, read] at isLine
            cases isLine
        | some left =>
            rw [edited, read] at isLine
            cases isLine
            exact ⟨_, by simp only [LineEditor.readLine, readLine, read]; rfl, rfl⟩
  garbled := by
    rintro ⟨input, output, entries, changed, files, aborted⟩ later isNext prompt
    obtain ⟨first, others, rfl, isGarbled, -⟩ := List.map_eq_cons_iff.1 isNext
    cases first with
    | garbled => exact ⟨_, _, rfl⟩
    | text typed =>
        cases read : edit? typed with
        | none => exact ⟨_, _, by simp only [LineEditor.readLine, readLine, read]; rfl⟩
        | some left =>
            rw [edited, read] at isGarbled
            cases isGarbled
  endOfInput := by
    rintro ⟨input, output, entries, changed, files, aborted⟩ ended prompt
    obtain rfl : input = [] := List.map_eq_nil_iff.1 ended
    exact ⟨_, rfl⟩
  start := fun _ => ⟨_, rfl, rfl⟩
  loadHistory := fun path world => congrArg (List.map _) (frame_loadHistory path world).1
  addEntry := fun line world => congrArg (List.map _) (frame_addEntry line world).1
  write := fun _ _ => rfl

theorem showsOutput : ShowsOutput (@Piped.output edit?) where
  write := fun _ _ => rfl
  readLine := fun prompt world => (readLine_snd prompt world).1
  start := by
    rintro world after ⟨⟩
    rfl
  loadHistory := fun path world => (frame_loadHistory path world).2.1
  addEntry := fun line world => (frame_addEntry line world).2.1
  saveHistory := by
    intro path world
    simp only [LineEditor.saveHistory, saveHistory]
    split <;> rfl

theorem isPassedOver_eq_true_iff {entries : List String} {line : String} (notEmpty : line ≠ "") :
    isPassedOver entries line = true ↔ entries.getLast? = some line := by
  simp [isPassedOver, notEmpty]

theorem enter_of_getLast?_ne {entries : List String} {line : String} (notEmpty : line ≠ "")
    (notLast : entries.getLast? ≠ some line) :
    enter entries line = (entries ++ [line]).rtake capacity := by
  rw [enter, if_neg (mt (isPassedOver_eq_true_iff notEmpty).1 notLast), List.rtake,
    List.length_append, List.length_singleton]

/-- What is left of a line when each backspace in it erases the character before it. -/
def eraseBackward (line : String) : Option String :=
  let type kept char := if char = '\x08' then kept.dropLast else kept ++ [char]
  some (String.ofList (line.toList.foldl type []))

example : eraseBackward "(+ 1 23\x08 4)" = some "(+ 1 2 4)" := by
  decide

end Piped

end MiniLisp
