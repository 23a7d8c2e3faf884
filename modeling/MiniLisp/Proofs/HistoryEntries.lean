import Mathlib.Data.List.Chain
import Mathlib.Data.List.DropRight

/-!
# Entries of one line after another

A history makes an entry of each line, unless the line repeats the entry before it, and keeps
the latest entries only.  What is entered first is never changed by what is entered later, so
that an outcome equal to the beginning tells that nothing was entered at all.  Entries that were
made so have no repetition, and are the same when they are entered again; and what was dropped
for being too old has no part in what is entered later.
-/

namespace MiniLisp

namespace History

/-- Entries with one more line after them, unless it repeats the last of them. -/
def enter (entries : List String) (line : String) : List String :=
  if entries.getLast? = some line then entries else entries ++ [line]

def entered (entries lines : List String) : List String :=
  lines.foldl enter entries

variable {entries lines : List String} {line : String}

theorem enter_of_getLast?_eq (isLast : entries.getLast? = some line) :
    enter entries line = entries :=
  if_pos isLast

theorem enter_of_getLast?_ne (notLast : entries.getLast? ≠ some line) :
    enter entries line = entries ++ [line] :=
  if_neg notLast

theorem enter_eq_self_iff : enter entries line = entries ↔ entries.getLast? = some line := by
  unfold enter
  split
  · next isLast => simp [isLast]
  · next notLast => simp [notLast]

theorem entered_append (entries lines later : List String) :
    entered entries (lines ++ later) = entered (entered entries lines) later :=
  List.foldl_append

theorem entered_concat (entries lines : List String) (line : String) :
    entered entries (lines ++ [line]) = enter (entered entries lines) line :=
  List.foldl_concat ..

theorem prefix_enter (entries : List String) (line : String) : entries <+: enter entries line := by
  unfold enter
  split
  · exact List.prefix_rfl
  · exact List.prefix_append entries [line]

theorem prefix_entered (entries lines : List String) : entries <+: entered entries lines := by
  induction lines generalizing entries with
  | nil => exact List.prefix_rfl
  | cons line later ih => exact (prefix_enter entries line).trans (ih (enter entries line))

/-- Lines that add no entry in the end have added none before. -/
theorem entered_eq_self_of_append {later : List String}
    (whole : entered entries (lines ++ later) = entries) : entered entries lines = entries := by
  have bound := (prefix_entered (entered entries lines) later).length_le
  rw [← entered_append, whole] at bound
  exact ((prefix_entered entries lines).eq_of_length_le bound).symm

/-- A line more makes a difference to the entries if it is a new one or there was a new one before
it. -/
theorem entered_concat_ne_iff :
    entered entries (lines ++ [line]) ≠ entries ↔
      entered entries lines ≠ entries ∨ (entered entries lines).getLast? ≠ some line := by
  rw [entered_concat, ← not_and_or, not_iff_not]
  constructor
  · intro whole
    have before : entered entries lines = entries :=
      @entered_eq_self_of_append entries lines [line] ((entered_concat ..).trans whole)
    rw [before] at whole ⊢
    exact ⟨rfl, enter_eq_self_iff.1 whole⟩
  · rintro ⟨before, isLast⟩
    rw [enter_of_getLast?_eq isLast, before]

theorem mem_enter {other : String} (member : other ∈ enter entries line) :
    other ∈ entries ∨ other = line := by
  unfold enter at member
  split at member
  · exact .inl member
  · simpa using member

theorem mem_entered (member : line ∈ entered entries lines) : line ∈ entries ∨ line ∈ lines := by
  induction lines generalizing entries with
  | nil => exact .inl member
  | cons first later ih =>
      rcases ih member with isEntered | isLater
      · rcases mem_enter isEntered with older | rfl
        · exact .inl older
        · exact .inr List.mem_cons_self
      · exact .inr (List.mem_cons_of_mem _ isLater)

theorem getLast?_rtake {count : Nat} (positive : 0 < count) :
    (entries.rtake count).getLast? = entries.getLast? := by
  rw [List.rtake, List.getLast?_drop]
  split
  · next short =>
    rw [List.eq_nil_of_length_eq_zero (by omega : entries.length = 0), List.getLast?_nil]
  · rfl

/-- A capacity drops the same whether or not it was kept to before. -/
theorem rtake_rtake_concat (entries : List String) (line : String) (count : Nat) :
    (entries.rtake count ++ [line]).rtake count = (entries ++ [line]).rtake count := by
  cases count with
  | zero => simp [List.rtake]
  | succ count => simp [List.rtake_eq_reverse_take_reverse, List.take_take]

end History

end MiniLisp
