import Mathlib.Order.Bounds.Basic
import MiniLisp.Proofs.ReadingOutcome

/-!
# Reading by the balance of parentheses

Where reading stops, and whether it gives an expression or an error, can be told
without building the expression.  Only the balance of opening and closing
parentheses counts: a list that was opened is complete at the first token where
the balance is back at zero, is refused at the first token where it passes the
limit on nesting, and is incomplete if neither ever happens.

The number of lists that are open is the balance so far, and while it lies
between one and the limit a token changes it by its weight and nothing else.
That one step and an induction over the tokens give the characterization.
-/

universe u

namespace MiniLisp

namespace Reader

/-- The number of opening parentheses among some tokens, less the closing ones. -/
def balance (tokens : List String) : Int :=
  (tokens.count "(" : Int) - tokens.count ")"

def weight (token : String) : Int :=
  if token = "(" then 1 else if token = ")" then -1 else 0

/-- Whether a list cannot stay open at this balance: it is complete, or nested too
deep. -/
def IsStopLevel (level : Int) : Prop :=
  level = 0 ∨ level = maxDepth + 1

/-- The numbers of tokens after which lists that are `depth` deep cannot stay open. -/
def stopsFrom (depth : Int) (tokens : List String) : Set Nat :=
  { count | 1 ≤ count ∧ count ≤ tokens.length ∧
    IsStopLevel (depth + balance (tokens.take count)) }

/-- The numbers of tokens after which the balance is zero, or past the limit. -/
def stops (tokens : List String) : Set Nat :=
  { count | 1 ≤ count ∧ count ≤ tokens.length ∧ IsStopLevel (balance (tokens.take count)) }

theorem stopsFrom_zero (tokens : List String) : stopsFrom 0 tokens = stops tokens := by
  simp [stopsFrom, stops]

@[simp] theorem balance_nil : balance [] = 0 :=
  rfl

theorem balance_cons (token : String) (tokens : List String) :
    balance (token :: tokens) = weight token + balance tokens := by
  unfold balance weight
  by_cases opens : token = "("
  · subst opens
    rw [List.count_cons_self, List.count_cons_of_ne (by decide), if_pos rfl]
    omega
  · by_cases closes : token = ")"
    · subst closes
      rw [List.count_cons_self, List.count_cons_of_ne (by decide), if_neg opens, if_pos rfl]
      omega
    · rw [List.count_cons_of_ne opens, List.count_cons_of_ne closes, if_neg opens, if_neg closes]
      omega

/-- A first token that reaches a stop level is the first stop. -/
theorem isLeast_stopsFrom_one {depth : Int} {token : String} (tokens : List String)
    (level : IsStopLevel (depth + weight token)) :
    IsLeast (stopsFrom depth (token :: tokens)) 1 := by
  refine ⟨⟨Nat.le_refl 1, by simp, ?_⟩, fun count stop => stop.1⟩
  rw [List.take_succ_cons, List.take_zero, balance_cons, balance_nil, Int.add_zero]
  exact level

/-- After a first token that reaches no stop level, the stops are those of the tokens
that follow. -/
theorem succ_mem_stopsFrom_cons {depth : Int} {token : String} {tokens : List String}
    (open' : ¬ IsStopLevel (depth + weight token)) (count : Nat) :
    count + 1 ∈ stopsFrom depth (token :: tokens) ↔
      count ∈ stopsFrom (depth + weight token) tokens := by
  have sameLevel : depth + balance ((token :: tokens).take (count + 1)) =
      depth + weight token + balance (tokens.take count) := by
    rw [List.take_succ_cons, balance_cons, Int.add_assoc]
  simp only [stopsFrom, Set.mem_ofPred_eq, List.length_cons, sameLevel]
  constructor
  · rintro ⟨-, within, level⟩
    refine ⟨Nat.one_le_iff_ne_zero.2 ?_, by omega, level⟩
    rintro rfl
    rw [List.take_zero, balance_nil, Int.add_zero] at level
    exact open' level
  · rintro ⟨positive, within, level⟩
    exact ⟨by omega, by omega, level⟩

theorem isLeast_stopsFrom_succ {depth : Int} {token : String} {tokens : List String}
    {count : Nat} (open' : ¬ IsStopLevel (depth + weight token))
    (least : IsLeast (stopsFrom (depth + weight token) tokens) count) :
    IsLeast (stopsFrom depth (token :: tokens)) (count + 1) := by
  refine ⟨(succ_mem_stopsFrom_cons open' count).2 least.1, ?_⟩
  intro other stop
  cases other with
  | zero => exact absurd stop.1 (by decide)
  | succ later =>
      have bound := least.2 ((succ_mem_stopsFrom_cons open' later).1 stop)
      exact Nat.succ_le_succ bound

theorem stopsFrom_cons_eq_empty {depth : Int} {token : String} {tokens : List String}
    (open' : ¬ IsStopLevel (depth + weight token))
    (never : stopsFrom (depth + weight token) tokens = ∅) :
    stopsFrom depth (token :: tokens) = ∅ := by
  apply Set.eq_empty_of_forall_notMem
  intro count stop
  cases count with
  | zero => exact absurd stop.1 (by decide)
  | succ later =>
      have early := (succ_mem_stopsFrom_cons open' later).1 stop
      rw [never] at early
      exact early

/-- How reading on from `depth` open lists ends, told by the balance alone: the
result, and the number of tokens taken. -/
inductive Ending (depth : Int) (tokens : List String) : Except ReadError Expr × Nat → Prop
  | complete {count : Nat} (expr : Expr) (least : IsLeast (stopsFrom depth tokens) count)
      (level : depth + balance (tokens.take count) = 0) : Ending depth tokens (.ok expr, count)
  | tooDeep {count : Nat} (least : IsLeast (stopsFrom depth tokens) count)
      (level : depth + balance (tokens.take count) = maxDepth + 1) :
      Ending depth tokens (.error (.tooDeep maxDepth), count)
  | incomplete (never : stopsFrom depth tokens = ∅) :
      Ending depth tokens (.error .endOfInput, tokens.length)

/-- A token that keeps lists open leaves the end of reading to the tokens after it. -/
theorem Ending.cons {depth : Int} {token : String} {tokens : List String}
    {ending : Except ReadError Expr × Nat} (open' : ¬ IsStopLevel (depth + weight token))
    (later : Ending (depth + weight token) tokens ending) :
    Ending depth (token :: tokens) (ending.map id (· + 1)) := by
  have sameLevel (count : Nat) : depth + balance ((token :: tokens).take (count + 1)) =
      depth + weight token + balance (tokens.take count) := by
    rw [List.take_succ_cons, balance_cons, Int.add_assoc]
  cases later with
  | @complete count expr least level =>
      exact .complete expr (isLeast_stopsFrom_succ open' least) (by rw [sameLevel, level])
  | @tooDeep count least level =>
      exact .tooDeep (isLeast_stopsFrom_succ open' least) (by rw [sameLevel, level])
  | incomplete never =>
      exact .incomplete (stopsFrom_cons_eq_empty open' never)

/-- With between one and `maxDepth` lists open, a token opens a list, closes one, or
adds an atom; it stops reading exactly if it reaches a stop level. -/
theorem feed_cases (items : List Expr) (outer : List (List Expr)) (token : String)
    (within : (items :: outer).length ≤ maxDepth) :
    (∃ opened, feed (items :: outer) token = .pending opened ∧ opened ≠ [] ∧
        opened.length ≤ maxDepth ∧
        (opened.length : Int) = (items :: outer).length + weight token) ∨
      (∃ expr, feed (items :: outer) token = .finished expr ∧
        ((items :: outer).length : Int) + weight token = 0) ∨
      (feed (items :: outer) token = .failed (.tooDeep maxDepth) ∧
        ((items :: outer).length : Int) + weight token = maxDepth + 1) := by
  unfold feed weight
  by_cases opens : token = "("
  · simp only [if_pos opens]
    by_cases room : (items :: outer).length < maxDepth
    · left
      rw [if_pos room]
      exact ⟨_, rfl, List.cons_ne_nil _ _, room, by simp⟩
    · right; right
      rw [if_neg room]
      exact ⟨rfl, by omega⟩
  · simp only [if_neg opens]
    by_cases closes : token = ")"
    · simp only [if_pos closes]
      cases outer with
      | nil =>
          right; left
          exact ⟨_, rfl, by simp⟩
      | cons next further =>
          left
          refine ⟨_, rfl, List.cons_ne_nil _ _, ?_, ?_⟩
          · simp only [List.length_cons] at within ⊢
            omega
          · simp only [List.length_cons]
            omega
    · simp only [if_neg closes]
      left
      refine ⟨_, rfl, List.cons_ne_nil _ _, ?_, ?_⟩
      · simpa using within
      · simp

theorem ending_outcome {opened : List (List Expr)} (some' : opened ≠ [])
    (within : opened.length ≤ maxDepth) (tokens : List String) :
    Ending opened.length tokens (outcome opened tokens) := by
  induction tokens generalizing opened with
  | nil =>
      refine .incomplete (Set.eq_empty_of_forall_notMem ?_)
      intro count stop
      have positive := stop.1
      have bound := stop.2.1
      rw [List.length_nil] at bound
      omega
  | cons token tokens ih =>
      obtain ⟨items, outer, rfl⟩ := List.exists_cons_of_ne_nil some'
      rcases feed_cases items outer token within with
        ⟨next, fed, stillOpen, stillWithin, level⟩ | ⟨expr, fed, level⟩ | ⟨fed, level⟩
      · -- As many lists are open as the balance says, so this is no stop.
        have later := ih stillOpen stillWithin
        have positive := List.length_pos_iff.2 stillOpen
        rw [level] at later
        simp only [outcome, fed]
        refine later.cons ?_
        rw [IsStopLevel, ← level]
        omega
      · simp only [outcome, fed]
        exact .complete expr (isLeast_stopsFrom_one tokens (.inl level))
          (by rw [List.take_succ_cons, List.take_zero, balance_cons, balance_nil]; omega)
      · simp only [outcome, fed]
        exact .tooDeep (isLeast_stopsFrom_one tokens (.inr level))
          (by rw [List.take_succ_cons, List.take_zero, balance_cons, balance_nil]; omega)

/-- An opening parenthesis at the start is not yet a stop, so that reading ends as
the balance of all tokens says. -/
theorem ending_outcome_open (tokens : List String) :
    Ending 0 ("(" :: tokens) (outcome [] ("(" :: tokens)) := by
  have fed : feed [] "(" = .pending [[]] := rfl
  have later : Ending 1 tokens (outcome [[]] tokens) :=
    ending_outcome (List.cons_ne_nil [] []) (by decide) tokens
  simp only [outcome, fed]
  exact later.cons (by unfold IsStopLevel; decide)

theorem Ending.eq_of_complete {depth : Int} {tokens : List String} {count : Nat}
    {ending : Except ReadError Expr × Nat} (ended : Ending depth tokens ending)
    (least : IsLeast (stopsFrom depth tokens) count)
    (level : depth + balance (tokens.take count) = 0) :
    ∃ expr, ending = (.ok expr, count) := by
  cases ended with
  | complete expr least' => exact ⟨expr, by rw [least'.unique least]⟩
  | tooDeep least' level' =>
      rw [least'.unique least, level] at level'
      exact absurd level' (by decide)
  | incomplete never =>
      rw [never] at least
      exact least.1.elim

theorem Ending.eq_of_tooDeep {depth : Int} {tokens : List String} {count : Nat}
    {ending : Except ReadError Expr × Nat} (ended : Ending depth tokens ending)
    (least : IsLeast (stopsFrom depth tokens) count)
    (level : depth + balance (tokens.take count) = maxDepth + 1) :
    ending = (.error (.tooDeep maxDepth), count) := by
  cases ended with
  | complete expr least' level' =>
      rw [least'.unique least, level] at level'
      exact absurd level' (by decide)
  | tooDeep least' => rw [least'.unique least]
  | incomplete never =>
      rw [never] at least
      exact least.1.elim

theorem Ending.eq_of_incomplete {depth : Int} {tokens : List String}
    {ending : Except ReadError Expr × Nat} (ended : Ending depth tokens ending)
    (never : stopsFrom depth tokens = ∅) :
    ending = (.error .endOfInput, tokens.length) := by
  cases ended with
  | complete expr least =>
      rw [never] at least
      exact least.1.elim
  | tooDeep least =>
      rw [never] at least
      exact least.1.elim
  | incomplete => rfl

end Reader

open Reader in
/-- Reading from any cursor, told by the tokens to come: nothing, a closing
parenthesis and an atom decide at once, and after an opening parenthesis the first
stop of the balance decides.  In each case the cursor passes the tokens named and
pulls no other. -/
theorem Cursor.read_eq_of_balance {σ : Type u} [Source σ String] (cursor : Cursor σ String) :
    (cursor.remaining = [] →
      cursor.read.1 = .error .endOfInput ∧ cursor.Advanced 0 cursor.read.2) ∧
    (∀ tokens, cursor.remaining = ")" :: tokens →
      cursor.read.1 = .error .unexpectedClose ∧ cursor.Advanced 1 cursor.read.2) ∧
    (∀ token tokens, cursor.remaining = token :: tokens → token ≠ "(" → token ≠ ")" →
      (∃ expr, cursor.read.1 = .ok expr) ∧ cursor.Advanced 1 cursor.read.2) ∧
    (∀ tokens, cursor.remaining = "(" :: tokens →
      (∀ count, IsLeast (stops cursor.remaining) count →
        (balance (cursor.remaining.take count) = 0 →
          (∃ expr, cursor.read.1 = .ok expr) ∧ cursor.Advanced count cursor.read.2) ∧
        (balance (cursor.remaining.take count) = 1025 →
          cursor.read.1 = .error (.tooDeep 1024) ∧ cursor.Advanced count cursor.read.2)) ∧
      (stops cursor.remaining = ∅ →
        cursor.read.1 = .error .endOfInput ∧
          cursor.Advanced cursor.remaining.length cursor.read.2)) := by
  obtain ⟨result, advanced⟩ := cursor.read_outcome
  refine ⟨?_, ?_, ?_, ?_⟩
  · intro nothing
    rw [nothing] at result advanced
    exact ⟨result, advanced⟩
  · intro tokens closes
    have read : outcome [] (")" :: tokens) = (.error .unexpectedClose, 1) := rfl
    rw [closes, read] at result advanced
    exact ⟨result, advanced⟩
  · intro token tokens shape notOpening notClosing
    have read : outcome [] (token :: tokens) = (.ok (Expr.ofWord token), 1) := by
      simp [outcome, feed, place, notOpening, notClosing]
    rw [shape, read] at result advanced
    exact ⟨⟨_, result⟩, advanced⟩
  · intro tokens opens
    have ended := ending_outcome_open tokens
    rw [← opens] at ended
    rw [← stopsFrom_zero]
    refine ⟨fun count least => ⟨fun level => ?_, fun level => ?_⟩, fun never => ?_⟩
    · obtain ⟨expr, read⟩ := ended.eq_of_complete least (by rw [level]; rfl)
      rw [read] at result advanced
      exact ⟨⟨expr, result⟩, advanced⟩
    · have read := ended.eq_of_tooDeep least (by rw [level]; rfl)
      rw [read] at result advanced
      exact ⟨result, advanced⟩
    · have read := ended.eq_of_incomplete never
      rw [read] at result advanced
      exact ⟨result, advanced⟩

open Reader in
/-- A complete list is read up to its closing parenthesis and no further. -/
theorem Cursor.read_eq_of_balance_complete :
    let cursor : Cursor (List String) String := .ofSource ["(", "a", ")", ")"]
    IsLeast (stops cursor.remaining) 3 ∧ balance (cursor.remaining.take 3) = 0 ∧
      (∃ expr, cursor.read.1 = .ok expr) ∧ cursor.Advanced 3 cursor.read.2 := by
  intro cursor
  have opens : cursor.remaining = ["(", "a", ")", ")"] := by simp [cursor]
  have level : balance (cursor.remaining.take 3) = 0 := by
    rw [opens]
    decide
  have least : IsLeast (stops cursor.remaining) 3 := by
    refine ⟨⟨by decide, by simp [opens], .inl level⟩, ?_⟩
    rintro count ⟨positive, -, stop⟩
    rw [opens] at stop
    by_contra early
    have bound : count = 1 ∨ count = 2 := by omega
    rcases bound with rfl | rfl
    · exact absurd stop (by unfold IsStopLevel; decide)
    · exact absurd stop (by unfold IsStopLevel; decide)
  exact ⟨least, level, ((cursor.read_eq_of_balance.2.2.2 _ opens).1 3 least).1 level⟩

end MiniLisp
