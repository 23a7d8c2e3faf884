import MiniLisp.Reader

/-!
# Reading as a function of the tokens to come

What reading gives, and how many tokens it takes, depends only on the tokens to
come.  This file states reading as a recursion over that list and proves that a
cursor reads the same expression or error, and stops after the same number of
tokens without having pulled a further one from its source.
-/

universe u v

namespace MiniLisp

namespace Cursor

variable {σ : Type u} {α : Type v} [Source σ α]

/-- One cursor becomes another by passing exactly `count` items, which all exist.
An item beyond them is ahead only if it was ahead before, and the source has
handed out none but the items passed. -/
structure Advanced (before : Cursor σ α) (count : Nat) (after : Cursor σ α) : Prop where
  count_le : count ≤ before.remaining.length
  passed : after.passed = (before.remaining.take count).reverse ++ before.passed
  ahead : after.ahead = before.ahead.drop count
  source : Source.toList after.source =
    (Source.toList before.source).drop (count - before.ahead.length)

theorem Advanced.remaining_eq {before after : Cursor σ α} {count : Nat}
    (advanced : before.Advanced count after) :
    after.remaining = before.remaining.drop count := by
  rw [remaining, remaining, advanced.ahead, advanced.source, List.drop_append]

theorem Advanced.position_eq {before after : Cursor σ α} {count : Nat}
    (advanced : before.Advanced count after) :
    after.position = before.position + count := by
  have enough := advanced.count_le
  rw [position, position, advanced.passed, List.length_append, List.length_reverse,
    List.length_take]
  omega

theorem Advanced.trans {first second third : Cursor σ α} {count later : Nat}
    (advanced : first.Advanced count second) (further : second.Advanced later third) :
    first.Advanced (count + later) third where
  count_le := by
    have enough := advanced.count_le
    have more := further.count_le
    rw [advanced.remaining_eq, List.length_drop] at more
    omega
  passed := by
    rw [further.passed, advanced.passed, advanced.remaining_eq, List.take_add,
      List.reverse_append, List.append_assoc]
  ahead := by
    rw [further.ahead, advanced.ahead, List.drop_drop]
  source := by
    rw [further.source, advanced.source, advanced.ahead, List.drop_drop, List.length_drop]
    congr 1
    omega

/-- A step passes one item and pulls no other. -/
theorem advanced_of_next_eq_some {cursor after : Cursor σ α} {item : α}
    (stepped : cursor.next = (some item, after)) : cursor.Advanced 1 after := by
  obtain ⟨toCome, passed⟩ := of_next_eq_some stepped
  have places : after.ahead = cursor.ahead.drop 1 ∧
      Source.toList after.source =
        (Source.toList cursor.source).drop (1 - cursor.ahead.length) := by
    unfold next look at stepped
    cases shape : cursor.ahead with
    | cons first others =>
        simp only [shape] at stepped
        cases stepped
        exact ⟨rfl, by simp⟩
    | nil =>
        cases given : Source.next cursor.source with
        | mk found rest =>
            cases found with
            | none => simp [shape, given] at stepped
            | some first =>
                simp only [shape, given] at stepped
                cases stepped
                exact ⟨rfl, by simp [Source.toList_eq_cons given]⟩
  exact
    { count_le := by simp [toCome]
      passed := by simp [toCome, passed]
      ahead := places.1
      source := places.2 }

/-- A step in vain passes nothing and pulls nothing. -/
theorem advanced_of_next_eq_none {cursor after : Cursor σ α}
    (finished : cursor.next = (none, after)) : cursor.Advanced 0 after := by
  obtain ⟨nothing, still, passed⟩ := of_next_eq_none finished
  rw [remaining, List.append_eq_nil_iff] at nothing still
  exact
    { count_le := Nat.zero_le _
      passed := by simp [passed]
      ahead := by simp [nothing.1, still.1]
      source := by simp [nothing.2, still.2] }

end Cursor

namespace Reader

/-- What reading on from the lists that are open makes of the tokens to come, and
how many of them it takes. -/
def outcome (opened : List (List Expr)) : List String → Except ReadError Expr × Nat
  | [] => (.error .endOfInput, 0)
  | token :: tokens =>
    match feed opened token with
    | .pending opened => (outcome opened tokens).map id (· + 1)
    | .finished expr => (.ok expr, 1)
    | .failed error => (.error error, 1)

/-- What holds of the expressions that a reader has so far. -/
def Progress.Holds (motive : Expr → Prop) : Progress → Prop
  | .pending opened => ∀ items ∈ opened, ∀ item ∈ items, motive item
  | .finished expr => motive expr
  | .failed _ => True

theorem holds_place {motive : Expr → Prop} {expr : Expr} (holds : motive expr)
    {opened : List (List Expr)} (held : (Progress.pending opened).Holds motive) :
    (place expr opened).Holds motive := by
  cases opened with
  | nil => exact holds
  | cons items outer =>
      intro others member item inItems
      rcases List.mem_cons.1 member with rfl | further
      · rcases List.mem_cons.1 inItems with rfl | inside
        · exact holds
        · exact held items List.mem_cons_self item inside
      · exact held others (List.mem_cons_of_mem _ further) item inItems

theorem holds_feed {motive : Expr → Prop}
    (list : ∀ items, (∀ item ∈ items, motive item) → motive (.list items)) {token : String}
    (atom : token ≠ "(" → token ≠ ")" → motive (.ofWord token)) {opened : List (List Expr)}
    (held : (Progress.pending opened).Holds motive) : (feed opened token).Holds motive := by
  unfold feed
  by_cases opens : token = "("
  · rw [if_pos opens]
    split
    · intro items member item inItems
      rcases List.mem_cons.1 member with rfl | further
      · exact absurd inItems List.not_mem_nil
      · exact held items further item inItems
    · trivial
  · rw [if_neg opens]
    by_cases closes : token = ")"
    · rw [if_pos closes]
      cases opened with
      | nil => trivial
      | cons items outer =>
          refine holds_place (list _ ?_) fun others member =>
            held others (List.mem_cons_of_mem _ member)
          intro item member
          exact held items List.mem_cons_self item (List.mem_reverse.1 member)
    · rw [if_neg closes]
      exact holds_place (atom opens closes) held

/-- What holds of the atoms that some tokens spell, and of a list whenever it holds of
its items, holds of what is read from the tokens. -/
theorem holds_of_outcome {motive : Expr → Prop}
    (list : ∀ items, (∀ item ∈ items, motive item) → motive (.list items))
    {tokens : List String}
    (atom : ∀ token ∈ tokens, token ≠ "(" → token ≠ ")" → motive (.ofWord token))
    {opened : List (List Expr)} (held : (Progress.pending opened).Holds motive) {expr : Expr}
    (read : (outcome opened tokens).1 = .ok expr) : motive expr := by
  induction tokens generalizing opened with
  | nil => cases read
  | cons token tokens ih =>
      have next := holds_feed list (atom token List.mem_cons_self) held
      rw [outcome] at read
      cases fed : feed opened token with
      | pending opened =>
          rw [fed] at next read
          exact ih (fun other member => atom other (List.mem_cons_of_mem _ member)) next read
      | finished result =>
          rw [fed] at next read
          cases read
          exact next
      | failed error =>
          rw [fed] at read
          cases read

variable {σ : Type u} [Source σ String]

theorem resume_outcome (opened : List (List Expr)) (cursor : Cursor σ String) :
    (resume opened cursor).1 = (outcome opened cursor.remaining).1 ∧
      cursor.Advanced (outcome opened cursor.remaining).2 (resume opened cursor).2 := by
  fun_induction resume opened cursor with
  | case1 opened cursor after finished =>
      rw [(Cursor.of_next_eq_none finished).1]
      exact ⟨rfl, Cursor.advanced_of_next_eq_none finished⟩
  | case2 opened cursor token after stepped opened' pending ih =>
      have step := Cursor.advanced_of_next_eq_some stepped
      rw [(Cursor.of_next_eq_some stepped).1]
      simp only [outcome, pending, Prod.map_fst, Prod.map_snd, id_eq]
      refine ⟨ih.1, ?_⟩
      rw [Nat.add_comm]
      exact step.trans ih.2
  | case3 opened cursor token after stepped expr finished =>
      rw [(Cursor.of_next_eq_some stepped).1]
      simp only [outcome, finished]
      exact ⟨trivial, Cursor.advanced_of_next_eq_some stepped⟩
  | case4 opened cursor token after stepped error failed =>
      rw [(Cursor.of_next_eq_some stepped).1]
      simp only [outcome, failed]
      exact ⟨trivial, Cursor.advanced_of_next_eq_some stepped⟩

end Reader

/-- Reading gives what the tokens to come say, and passes as many as they say. -/
theorem Cursor.read_outcome {σ : Type u} [Source σ String] (cursor : Cursor σ String) :
    cursor.read.1 = (Reader.outcome [] cursor.remaining).1 ∧
      cursor.Advanced (Reader.outcome [] cursor.remaining).2 cursor.read.2 :=
  Reader.resume_outcome [] cursor

theorem readTokens_eq_outcome (tokens : List String) :
    readTokens tokens = (Reader.outcome [] tokens).1 := by
  rw [readTokens, (Cursor.read_outcome _).1, Cursor.remaining_ofSource, Source.toList_list]

end MiniLisp
