import MiniLisp.Cursor.Basic

/-!
# What cursor operations do to the items

Two lists describe where a cursor stands: the items passed and the items to
come.  Each statement here says how an operation changes them, so that nothing
else about the operation needs to be known.  A step moves the first item to come
to those passed; skipping moves the longest run that satisfies the test.
-/

universe u v

namespace MiniLisp

namespace Cursor

variable {σ : Type u} {α : Type v} [Source σ α]

@[simp] theorem remaining_ofSource (source : σ) :
    (ofSource source).remaining = Source.toList source :=
  rfl

@[simp] theorem remaining_drop (cursor : Cursor σ α) :
    cursor.drop.remaining = cursor.remaining :=
  rfl

@[simp] theorem passed_look (cursor : Cursor σ α) : cursor.look.passed = cursor.passed := by
  unfold look
  split
  · rfl
  · split <;> rfl

@[simp] theorem remaining_look (cursor : Cursor σ α) :
    cursor.look.remaining = cursor.remaining := by
  unfold look
  split
  · rfl
  · next empty =>
    split
    · next dry => simp [remaining, Source.toList_eq_nil dry, Source.toList_rest_eq_nil dry]
    · next given => simp [remaining, empty, Source.toList_eq_cons given]

theorem head?_look (cursor : Cursor σ α) : cursor.look.ahead.head? = cursor.remaining.head? := by
  unfold look remaining
  split
  · next shape => simp [shape]
  · next empty =>
    split
    · next dry => simp [empty, Source.toList_eq_nil dry]
    · next given => simp [empty, Source.toList_eq_cons given]

@[simp] theorem atEnd_fst (cursor : Cursor σ α) : cursor.atEnd.1 = cursor.remaining.isEmpty := by
  rw [atEnd, Bool.eq_iff_iff, List.isEmpty_iff, List.isEmpty_iff, ← List.head?_eq_none_iff,
    head?_look, List.head?_eq_none_iff]

/-- A step moves the first item to come to those passed. -/
theorem of_next_eq_some {cursor after : Cursor σ α} {item : α}
    (stepped : cursor.next = (some item, after)) :
    cursor.remaining = item :: after.remaining ∧ after.passed = item :: cursor.passed := by
  have sameRemaining := remaining_look cursor
  unfold next at stepped
  split at stepped
  · next found =>
    cases stepped
    rw [← sameRemaining]
    exact ⟨by simp [remaining, found], rfl⟩
  · cases stepped

/-- Where a step finds nothing, no items are to come and none is passed. -/
theorem of_next_eq_none {cursor after : Cursor σ α} (finished : cursor.next = (none, after)) :
    cursor.remaining = [] ∧ after.remaining = [] ∧ after.passed = cursor.passed := by
  obtain ⟨rfl, empty⟩ := eq_look_of_next finished
  have found := head?_look cursor
  rw [empty] at found
  have nothing : cursor.remaining = [] := List.head?_eq_none_iff.1 found.symm
  exact ⟨nothing, by rw [remaining_look, nothing], passed_look cursor⟩

@[simp] theorem toList_eq_remaining (cursor : Cursor σ α) :
    Source.toList cursor = cursor.remaining := by
  cases stepped : cursor.next with
  | mk found after =>
    cases found with
    | none => rw [Source.toList_eq_nil stepped, (of_next_eq_none stepped).1]
    | some item =>
      rw [Source.toList_eq_cons stepped, (of_next_eq_some stepped).1, toList_eq_remaining after]
termination_by cursor.size
decreasing_by exact size_lt_of_next stepped

theorem passWhile_of_next_eq_some {cursor after : Cursor σ α} {item : α} (holds : α → Bool)
    (stepped : cursor.next = (some item, after)) :
    cursor.passWhile holds = if holds item then after.passWhile holds else cursor.look := by
  rw [passWhile]
  split <;> simp_all

theorem passWhile_of_next_eq_none {cursor after : Cursor σ α} (holds : α → Bool)
    (finished : cursor.next = (none, after)) : cursor.passWhile holds = after := by
  rw [passWhile]
  split <;> simp_all

theorem collectOnto_of_next_eq_some {cursor after : Cursor σ α} {item : α}
    (collected : List α) (stepped : cursor.next = (some item, after)) :
    cursor.collectOnto collected = after.collectOnto (item :: collected) := by
  rw [collectOnto]
  split <;> simp_all

theorem collectOnto_of_next_eq_none {cursor after : Cursor σ α} (collected : List α)
    (finished : cursor.next = (none, after)) :
    cursor.collectOnto collected = (collected.reverse, after) := by
  rw [collectOnto]
  split <;> simp_all

@[simp] theorem remaining_passWhile (holds : α → Bool) (cursor : Cursor σ α) :
    (cursor.passWhile holds).remaining = cursor.remaining.dropWhile holds := by
  fun_induction passWhile holds cursor with
  | case1 cursor item after stepped satisfied ih =>
      rw [ih, (of_next_eq_some stepped).1, List.dropWhile_cons_of_pos satisfied]
  | case2 cursor item after stepped refused =>
      rw [remaining_look, (of_next_eq_some stepped).1, List.dropWhile_cons_of_neg refused]
  | case3 cursor after finished =>
      obtain ⟨nothing, still, _⟩ := of_next_eq_none finished
      simp [nothing, still]

theorem passed_passWhile (holds : α → Bool) (cursor : Cursor σ α) :
    (cursor.passWhile holds).passed =
      (cursor.remaining.takeWhile holds).reverse ++ cursor.passed := by
  fun_induction passWhile holds cursor with
  | case1 cursor item after stepped satisfied ih =>
      obtain ⟨toCome, passed⟩ := of_next_eq_some stepped
      rw [ih, toCome, passed, List.takeWhile_cons_of_pos satisfied]
      simp
  | case2 cursor item after stepped refused =>
      rw [passed_look, (of_next_eq_some stepped).1, List.takeWhile_cons_of_neg refused]
      rfl
  | case3 cursor after finished =>
      obtain ⟨nothing, _, passed⟩ := of_next_eq_none finished
      simp [nothing, passed]

theorem skipWhile_fst (holds : α → Bool) (cursor : Cursor σ α) :
    (cursor.skipWhile holds).1 = cursor.remaining.head?.any holds := by
  simp [skipWhile, head?_look]

theorem of_acceptAny_eq_some [BEq α] {wanted : List α} {cursor after : Cursor σ α} {item : α}
    (accepted : cursor.acceptAny wanted = (some item, after)) :
    wanted.contains item = true ∧ cursor.remaining = item :: after.remaining ∧
      after.passed = item :: cursor.passed := by
  unfold acceptAny at accepted
  split at accepted
  · next stepped =>
    split at accepted
    · next isWanted =>
      cases accepted
      exact ⟨isWanted, of_next_eq_some stepped⟩
    · cases accepted
  · cases accepted

theorem of_acceptAny_eq_none [BEq α] {wanted : List α} {cursor after : Cursor σ α}
    (refused : cursor.acceptAny wanted = (none, after)) {item : α}
    (first : cursor.remaining.head? = some item) : wanted.contains item = false := by
  unfold acceptAny at refused
  split at refused
  · next stepped =>
    rw [(of_next_eq_some stepped).1, List.head?_cons, Option.some.injEq] at first
    subst first
    split at refused
    · cases refused
    · next isOther => simpa using isOther
  · next finished =>
    rw [(of_next_eq_none finished).1] at first
    cases first

theorem collectOnto_fst (collected : List α) (cursor : Cursor σ α) :
    (cursor.collectOnto collected).1 = collected.reverse ++ cursor.remaining := by
  fun_induction collectOnto collected cursor with
  | case1 collected cursor item after stepped ih =>
      rw [ih, (of_next_eq_some stepped).1]
      simp
  | case2 collected cursor after finished => simp [(of_next_eq_none finished).1]

@[simp] theorem collect_fst (cursor : Cursor σ α) : cursor.collect.1 = cursor.remaining := by
  simp [collect, collectOnto_fst]

end Cursor

end MiniLisp
