import MiniLisp.Proofs.EagerCursor
import MiniLisp.Proofs.TokenTree

/-!
# Reading by recursive descent

Expressions can also be read by a descent that calls itself for each item of a list, and has the
lists that are open on its stack of calls.  Here the descent is given a number of levels, and it
gives up where its calls would be nested deeper than that.  One call is stated with the calls
nested in it left open, and the levels are counted by closing it over itself.

With one level more than lists may be open at once the descent never gives up, whatever the
tokens are: each call reads just what the reader adds to the innermost list that is open when the
call is made.  With a level less it gives up where that many lists are opened.
-/

universe u v

namespace MiniLisp

namespace Cursor

variable {σ : Type u} {α : Type v} [Source σ α]

/-- A step gives the item that was looked at before. -/
theorem exists_next_peek {cursor : Cursor σ α} {item : α} (found : cursor.peek.1 = some item) :
    ∃ after, cursor.peek.2.next = (some item, after) := by
  obtain ⟨others, isAhead⟩ := List.head?_eq_some_iff.1 found
  have still : cursor.look.look = cursor.look := by
    rw [look, isAhead]
  change ∃ after, cursor.look.next = (some item, after)
  rw [next, still, isAhead]
  exact ⟨_, rfl⟩

theorem size_next_peek_lt {cursor : Cursor σ α} {item : α} (found : cursor.peek.1 = some item) :
    cursor.peek.2.next.2.size < cursor.size := by
  obtain ⟨after, stepped⟩ := exists_next_peek found
  rw [stepped]
  exact Nat.lt_of_lt_of_le (size_lt_of_next stepped) (size_look_le cursor)

/-- Over a list, looking at the next item makes no difference to passing it. -/
theorem next_look (cursor : Cursor (List α) α) : cursor.look.next = cursor.next := by
  obtain ⟨passed, ahead, source⟩ := cursor
  cases ahead with
  | cons item items => rfl
  | nil => cases source <;> rfl

end Cursor

namespace Reader

variable {σ : Type u} [Source σ String]

/-- How a call ends that had at most so many tokens before it.  An expression takes one of them
at least. -/
inductive Descent (σ : Type u) [Source σ String] (bound : Nat) where
  | gaveUp
  | failed (error : ReadError) (after : Cursor σ String)
  | read (expr : Expr) (after : Cursor σ String) (shorter : after.size < bound)

namespace Descent

variable {bound wider : Nat}

def widen (within : bound ≤ wider) : Descent σ bound → Descent σ wider
  | .gaveUp => .gaveUp
  | .failed error after => .failed error after
  | .read expr after shorter => .read expr after (Nat.lt_of_lt_of_le shorter within)

def ending? : Descent σ bound → Option (Except ReadError Expr × Cursor σ String)
  | .gaveUp => none
  | .failed error after => some (.error error, after)
  | .read expr after _ => some (.ok expr, after)

@[simp] theorem ending?_widen (within : bound ≤ wider) (descent : Descent σ bound) :
    (descent.widen within).ending? = descent.ending? := by
  cases descent <;> rfl

end Descent

/-- Read items, each by a call, on top of those there are, the newest first, until a closing
parenthesis is next. -/
def descendItems (call : ∀ cursor : Cursor σ String, Descent σ cursor.size)
    (items : List Expr) (cursor : Cursor σ String) : Descent σ cursor.size :=
  if closes : cursor.peek.1 = some ")" then
    .read (.list items.reverse) cursor.peek.2.next.2 (Cursor.size_next_peek_lt closes)
  else
    have looked : cursor.peek.2.size ≤ cursor.size := Cursor.size_look_le cursor
    match call cursor.peek.2 with
    | .gaveUp => .gaveUp
    | .failed error after => .failed error after
    | .read item after shorter =>
        have within : after.size ≤ cursor.size := Nat.le_of_lt (Nat.lt_of_lt_of_le shorter looked)
        (descendItems call (item :: items) after).widen within
termination_by cursor.size
decreasing_by exact Nat.lt_of_lt_of_le shorter looked

/-- Read an expression that lies in `depth` lists, with calls that are nested at most `levels`
deep. -/
def descend : (levels depth : Nat) → (cursor : Cursor σ String) → Descent σ cursor.size
  | 0, _, _ => .gaveUp
  | levels + 1, depth, cursor =>
    match stepped : cursor.next with
    | (none, after) => .failed .endOfInput after
    | (some token, after) =>
      have shorter : after.size < cursor.size := Cursor.size_lt_of_next stepped
      if token = ")" then .failed .unexpectedClose after
      else if token = "(" then
        if maxDepth ≤ depth then .failed (.tooDeep maxDepth) after
        else (descendItems (descend levels (depth + 1)) [] after).widen (Nat.le_of_lt shorter)
      else .read (.ofWord token) after shorter

theorem resume_congr (opened : List (List Expr)) {cursor other : Cursor σ String}
    (same : cursor.next = other.next) : resume opened cursor = resume opened other := by
  cases stepped : other.next with
  | mk found after =>
      cases found with
      | none => rw [resume_of_next_eq_none stepped, resume_of_next_eq_none (same.trans stepped)]
      | some token =>
          rw [resume_of_next_eq_some stepped, resume_of_next_eq_some (same.trans stepped)]

theorem resume_peek (opened : List (List Expr)) (cursor : Cursor σ String) :
    resume opened cursor.peek.2.eager = resume opened cursor.eager := by
  apply resume_congr
  change cursor.look.eager.next = cursor.eager.next
  rw [← Cursor.look_eager, Cursor.next_look]

/-- Read on after a call, with what it has read as an item of the innermost open list. -/
def goOn (opened : List (List Expr)) :
    Except ReadError Expr × Cursor σ String → Except ReadError Expr × Cursor σ String
  | (.error error, after) => (.error error, after)
  | (.ok expr, after) =>
    match place expr opened with
    | .pending opened => resume opened after
    | .finished expr => (.ok expr, after)
    | .failed error => (.error error, after)

/-- A descent that does not give up, and after which reading goes on as the reader goes on that
has some lists open at a cursor.  Places are compared by their eager twins, as a descent looks
ahead where the reader does not. -/
def Descent.Follows {bound : Nat} (descent : Descent σ bound) (outer opened : List (List Expr))
    (cursor : Cursor σ String) : Prop :=
  ∃ ending, descent.ending? = some ending ∧
    goOn outer (ending.map id Cursor.eager) = resume opened cursor.eager

theorem Descent.Follows.widen {bound wider : Nat} (within : bound ≤ wider)
    {descent : Descent σ bound} {outer opened : List (List Expr)} {cursor : Cursor σ String}
    (follows : descent.Follows outer opened cursor) :
    (descent.widen within).Follows outer opened cursor := by
  rw [Follows, ending?_widen]
  exact follows

/-- A list is followed to its closing parenthesis if each of its items is. -/
theorem follows_descendItems {opened : List (List Expr)}
    {call : ∀ cursor : Cursor σ String, Descent σ cursor.size}
    (each : ∀ items cursor, cursor.remaining.head? ≠ some ")" →
      (call cursor).Follows (items :: opened) (items :: opened) cursor)
    (items : List Expr) (cursor : Cursor σ String) :
    (descendItems call items cursor).Follows opened (items :: opened) cursor := by
  have followed : ∀ items (cursor : Cursor σ String), cursor.peek.1 ≠ some ")" →
      (call cursor.peek.2).Follows (items :: opened) (items :: opened) cursor.peek.2 := by
    intro items cursor notClose
    apply each
    change cursor.look.remaining.head? ≠ some ")"
    rw [Cursor.remaining_look, ← Cursor.head?_look]
    exact notClose
  fun_induction descendItems call items cursor with
  | case1 items cursor closes =>
      refine ⟨_, rfl, ?_⟩
      obtain ⟨after, stepped⟩ := Cursor.exists_next_peek closes
      rw [← resume_peek, resume_of_next_eq_some (Cursor.next_eager_of_eq stepped), feed_close,
        stepped]
      rfl
  | case2 items cursor notClose looked gaveUp =>
      obtain ⟨ending, ended, -⟩ := followed items cursor notClose
      rw [gaveUp] at ended
      cases ended
  | case3 items cursor notClose looked error after failed =>
      obtain ⟨ending, ended, same⟩ := followed items cursor notClose
      rw [failed] at ended
      cases ended
      exact ⟨_, rfl, same.trans (resume_peek _ cursor)⟩
  | case4 items cursor notClose looked item after shorter read within ih =>
      obtain ⟨ending, ended, same⟩ := followed items cursor notClose
      rw [read] at ended
      cases ended
      -- The item is placed in the list, whose further items are read after it.
      obtain ⟨last, lastEnded, lastSame⟩ := ih.widen within
      exact ⟨last, lastEnded, lastSame.trans (same.trans (resume_peek _ cursor))⟩

/-- With more levels than lists may still be opened, a descent follows the reader.  A closing
parenthesis is left to the call that has opened the list, if there is one. -/
theorem follows_descend {levels : Nat} {opened : List (List Expr)} {cursor : Cursor σ String}
    (within : opened.length ≤ maxDepth) (enough : maxDepth < opened.length + levels)
    (inside : opened ≠ [] → cursor.remaining.head? ≠ some ")") :
    (descend levels opened.length cursor).Follows opened opened cursor := by
  induction levels generalizing opened cursor with
  | zero => omega
  | succ levels ih =>
      unfold descend
      split
      · next after finished =>
        exact ⟨_, rfl, (resume_of_next_eq_none (Cursor.next_eager_of_eq finished)).symm⟩
      · next token after stepped =>
        have toCome := (Cursor.of_next_eq_some stepped).1
        have fed := @resume_of_next_eq_some _ _ opened _ _ _ (Cursor.next_eager_of_eq stepped)
        dsimp only
        by_cases closes : token = ")"
        · subst closes
          have outside : opened = [] :=
            Decidable.byContradiction fun nonempty =>
              inside nonempty (by rw [toCome, List.head?_cons])
          subst outside
          rw [if_pos rfl]
          exact ⟨_, rfl, fed.symm⟩
        · rw [if_neg closes]
          by_cases opens : token = "("
          · subst opens
            rw [if_pos rfl]
            by_cases full : maxDepth ≤ opened.length
            · rw [if_pos full]
              rw [feed_open_full (Nat.le_antisymm within full)] at fed
              exact ⟨_, rfl, fed.symm⟩
            · rw [if_neg full]
              rw [feed_open (Nat.lt_of_not_le full)] at fed
              apply Descent.Follows.widen
              rw [Descent.Follows, fed]
              refine follows_descendItems ?_ [] after
              intro items cursor notClose
              have deeper := @ih (items :: opened) cursor
              rw [List.length_cons] at deeper
              exact deeper (by omega) (by omega) fun _ => notClose
          · rw [if_neg opens]
            rw [feed_atom opened ⟨token, opens, closes⟩] at fed
            exact ⟨_, rfl, fed.symm⟩

theorem goOn_nil (ending : Except ReadError Expr × Cursor σ String) : goOn [] ending = ending := by
  obtain ⟨result, after⟩ := ending
  cases result <;> rfl

/-- With one level more than lists may be open, the descent reads what the reader reads and stops
where it stops. -/
theorem ending?_descend (cursor : Cursor σ String) :
    (descend (maxDepth + 1) 0 cursor).ending?.map (Prod.map id Cursor.eager) =
      some (cursor.read.map id Cursor.eager) := by
  obtain ⟨ending, ended, same⟩ :=
    @follows_descend _ _ (maxDepth + 1) [] cursor (Nat.zero_le _) (by simp) (absurd rfl)
  rw [goOn_nil, resume_eager] at same
  rw [List.length_nil] at ended
  rw [ended, Option.map_some, same]
  rfl

/-- As many opening parentheses as there are levels take all of them, and the next call is one too
many. -/
theorem descend_replicate_open {levels depth : Nat} (within : depth + levels ≤ maxDepth)
    {cursor : Cursor σ String} (toCome : cursor.remaining = List.replicate levels "(") :
    descend levels depth cursor = .gaveUp := by
  induction levels generalizing depth cursor with
  | zero => rfl
  | succ levels ih =>
      unfold descend
      split
      · next finished =>
        rw [(Cursor.of_next_eq_none finished).1] at toCome
        cases toCome
      · next token after stepped =>
        rw [(Cursor.of_next_eq_some stepped).1, List.replicate_succ] at toCome
        obtain ⟨rfl, left⟩ := List.cons.inj toCome
        have notClose : after.peek.1 ≠ some ")" := by
          change after.look.ahead.head? ≠ _
          rw [Cursor.head?_look, left]
          cases levels <;> simp [List.replicate_succ]
        have given : descend levels (depth + 1) after.peek.2 = .gaveUp := by
          apply ih (by omega)
          change after.look.remaining = _
          rw [Cursor.remaining_look, left]
        have full : ¬ maxDepth ≤ depth := by omega
        dsimp only
        rw [if_neg (by decide), if_pos rfl, if_neg full, descendItems, dif_neg notClose, given]
        rfl

end Reader

def readTokensWithin (levels : Nat) (tokens : List String) : Option (Except ReadError Expr) :=
  (Reader.descend levels 0 (Cursor.ofSource tokens)).ending?.map Prod.fst

theorem readTokensWithin_eq (tokens : List String) :
    readTokensWithin (maxDepth + 1) tokens = some (readTokens tokens) := by
  have same := congrArg (Option.map Prod.fst)
    (Reader.ending?_descend (Cursor.ofSource tokens : Cursor (List String) String))
  rw [Option.map_map, Option.map_some] at same
  exact same

theorem readTokensWithin_replicate_open {levels : Nat} (few : levels ≤ maxDepth) :
    readTokensWithin levels (List.replicate levels "(") = none := by
  rw [readTokensWithin, Reader.descend_replicate_open (by rwa [Nat.zero_add])]
  · rfl
  · rw [Cursor.remaining_ofSource, Source.toList_list]

end MiniLisp
