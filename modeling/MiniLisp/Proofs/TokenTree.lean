import MiniLisp.Proofs.ReadingOutcome

/-!
# Token trees

Tokens in balance are the flattening of a tree whose leaves are the tokens that are no
parentheses and whose lists are the parenthesized groups.  Reading a flattened tree
gives the tree with every leaf read as an atom, whatever tokens follow, as long as no
list opens deeper than the limit allows, and otherwise fails at the first that does.
-/

namespace MiniLisp

/-- A token that is no parenthesis. -/
structure AtomToken where
  text : String
  notOpen : text ≠ "("
  notClose : text ≠ ")"

inductive TokenTree where
  | leaf (token : AtomToken)
  | list (children : List TokenTree)

namespace TokenTree

@[elab_as_elim]
theorem children_induction {motive : TokenTree → Prop} (leaf : ∀ token, motive (.leaf token))
    (list : ∀ children, (∀ child ∈ children, motive child) → motive (.list children)) :
    ∀ tree, motive tree
  | .leaf token => leaf token
  | .list children => list children fun child _ => children_induction leaf list child

mutual

/-- The tokens of a tree, with parentheses around the children of each list. -/
def flatten : TokenTree → List String
  | .leaf token => [token.text]
  | .list children => "(" :: (flattenAll children ++ [")"])

def flattenAll : List TokenTree → List String
  | [] => []
  | child :: children => flatten child ++ flattenAll children

end

mutual

def depth : TokenTree → Nat
  | .leaf _ => 0
  | .list children => depthOfAll children + 1

def depthOfAll : List TokenTree → Nat
  | [] => 0
  | child :: children => max (depth child) (depthOfAll children)

end

theorem depth_le_depthOfAll {child : TokenTree} {children : List TokenTree}
    (member : child ∈ children) : child.depth ≤ depthOfAll children := by
  induction children with
  | nil => exact absurd member List.not_mem_nil
  | cons first children ih =>
      rw [depthOfAll]
      rcases List.mem_cons.1 member with rfl | further
      · exact Nat.le_max_left _ _
      · exact Nat.le_trans (ih further) (Nat.le_max_right _ _)

mutual

/-- The expression of the same shape, with the atoms that the leaves spell. -/
def expr : TokenTree → Expr
  | .leaf token => .ofWord token.text
  | .list children => .list (exprs children)

def exprs : List TokenTree → List Expr
  | [] => []
  | child :: children => expr child :: exprs children

end

end TokenTree

namespace Reader

/-- What reading makes of the tokens that follow, once it stands somewhere. -/
def proceed (tokens : List String) : Progress → Except ReadError Expr × Nat
  | .pending opened => outcome opened tokens
  | .finished expr => (.ok expr, 0)
  | .failed error => (.error error, 0)

theorem outcome_cons (opened : List (List Expr)) (token : String) (tokens : List String) :
    outcome opened (token :: tokens) =
      (proceed tokens (feed opened token)).map id (· + 1) := by
  rw [outcome]
  cases feed opened token <;> rfl

theorem feed_atom (opened : List (List Expr)) (token : AtomToken) :
    feed opened token.text = place (.ofWord token.text) opened := by
  unfold feed
  rw [if_neg token.notOpen, if_neg token.notClose]

theorem feed_open {opened : List (List Expr)} (room : opened.length < maxDepth) :
    feed opened "(" = .pending ([] :: opened) := by
  unfold feed
  rw [if_pos rfl, if_pos room]

theorem feed_open_full {opened : List (List Expr)} (full : opened.length = maxDepth) :
    feed opened "(" = .failed (.tooDeep maxDepth) := by
  unfold feed
  rw [if_pos rfl, if_neg (by omega)]

theorem feed_close (items : List Expr) (opened : List (List Expr)) :
    feed (items :: opened) ")" = place (.list items.reverse) opened := by
  unfold feed
  rw [if_neg (by decide), if_pos rfl]

theorem map_add_map_add (ending : Except ReadError Expr × Nat) (first second : Nat) :
    (ending.map id (· + first)).map id (· + second) =
      ending.map id (· + (second + first)) := by
  simp only [Prod.map_map, Function.comp_def, id_eq, Nat.add_assoc, Nat.add_comm second]
  rfl

/-- Trees in a list, read one after another, become its newest items. -/
theorem outcome_flattenAll {children : List TokenTree} {opened : List (List Expr)}
    (each : ∀ child ∈ children, ∀ items rest,
      outcome (items :: opened) (child.flatten ++ rest) =
        (proceed rest (place child.expr (items :: opened))).map id (· + child.flatten.length))
    (items : List Expr) (rest : List String) :
    outcome (items :: opened) (TokenTree.flattenAll children ++ rest) =
      (outcome (((TokenTree.exprs children).reverse ++ items) :: opened) rest).map id
        (· + (TokenTree.flattenAll children).length) := by
  induction children generalizing items with
  | nil => rfl
  | cons child children ih =>
      rw [TokenTree.flattenAll, TokenTree.exprs, List.append_assoc,
        each child List.mem_cons_self, place, proceed,
        ih fun other member => each other (List.mem_cons_of_mem _ member), map_add_map_add,
        List.reverse_cons, List.append_assoc, List.singleton_append, List.length_append]

/-- Reading passes a tree that is not nested too deep, and puts its expression into the
innermost open list. -/
theorem outcome_flatten (tree : TokenTree) {opened : List (List Expr)}
    (shallow : opened.length + tree.depth ≤ maxDepth) (rest : List String) :
    outcome opened (tree.flatten ++ rest) =
      (proceed rest (place tree.expr opened)).map id (· + tree.flatten.length) := by
  induction tree using TokenTree.children_induction generalizing opened rest with
  | leaf token =>
      rw [TokenTree.flatten, List.singleton_append, outcome_cons, feed_atom]
      rfl
  | list children ih =>
      rw [TokenTree.depth] at shallow
      -- The list is open while its children are read, so each has one level less to spare.
      have each : ∀ child ∈ children, ∀ items rest,
          outcome (items :: opened) (child.flatten ++ rest) =
            (proceed rest (place child.expr (items :: opened))).map id
              (· + child.flatten.length) := by
        intro child member items rest
        refine ih child member ?_ rest
        have bound := TokenTree.depth_le_depthOfAll member
        rw [List.length_cons]
        omega
      rw [TokenTree.flatten, List.cons_append, outcome_cons, feed_open (by omega), proceed,
        List.append_assoc, outcome_flattenAll each, List.singleton_append, outcome_cons,
        feed_close, List.append_nil, List.reverse_reverse, map_add_map_add, map_add_map_add,
        TokenTree.expr, List.length_cons, List.length_append, List.length_singleton]
      rw [Nat.add_comm 1, Nat.add_assoc]

/-- Of trees in a list, reading passes those before the first that is nested too deep. -/
theorem outcome_flattenAll_tooDeep {children : List TokenTree} {opened : List (List Expr)}
    (within : opened.length < maxDepth)
    (deep : maxDepth < opened.length + 1 + TokenTree.depthOfAll children)
    (each : ∀ child ∈ children, maxDepth < opened.length + 1 + child.depth → ∀ items rest,
      (outcome (items :: opened) (child.flatten ++ rest)).1 = .error (.tooDeep maxDepth))
    (items : List Expr) (rest : List String) :
    (outcome (items :: opened) (TokenTree.flattenAll children ++ rest)).1 =
      .error (.tooDeep maxDepth) := by
  induction children generalizing items with
  | nil =>
      rw [TokenTree.depthOfAll] at deep
      omega
  | cons child children ih =>
      rw [TokenTree.depthOfAll] at deep
      rw [TokenTree.flattenAll, List.append_assoc]
      by_cases childDeep : maxDepth < opened.length + 1 + child.depth
      · exact each child List.mem_cons_self childDeep items _
      · rw [outcome_flatten child (by rw [List.length_cons]; omega)]
        exact ih (by omega) (fun other member => each other (List.mem_cons_of_mem _ member)) _

/-- Reading fails in a tree that is nested too deep. -/
theorem outcome_flatten_tooDeep (tree : TokenTree) {opened : List (List Expr)}
    (within : opened.length ≤ maxDepth) (deep : maxDepth < opened.length + tree.depth)
    (rest : List String) :
    (outcome opened (tree.flatten ++ rest)).1 = .error (.tooDeep maxDepth) := by
  induction tree using TokenTree.children_induction generalizing opened rest with
  | leaf token =>
      rw [TokenTree.depth] at deep
      omega
  | list children ih =>
      rw [TokenTree.depth] at deep
      rw [TokenTree.flatten, List.cons_append, outcome_cons, List.append_assoc]
      by_cases full : opened.length = maxDepth
      · rw [feed_open_full full]
        rfl
      · have room : opened.length < maxDepth := by omega
        rw [feed_open room]
        refine outcome_flattenAll_tooDeep room (by omega) ?_ [] _
        intro child member childDeep items rest
        refine ih child member ?_ ?_ rest
        · rw [List.length_cons]
          exact room
        · rw [List.length_cons]
          omega

end Reader

end MiniLisp
