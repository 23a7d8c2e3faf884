import MiniLisp.Proofs.TokenTree

/-!
# Reading and flattening are inverse

A flattened tree can be told from what follows it: the tokens of one tree are never the
beginning of those of another, so tokens are the flattening of at most one tree.  Reading
goes exactly to the end of a tree that is nested within the limit, which makes it possible
to read several in a row from one cursor, and gives an expression for no other tokens.

That reading finds a tree is an invariant of the reader.  After any tokens, the lists that
are open hold the expressions of trees, whose flattenings, each list after its opening
parenthesis, are these tokens.  A closing parenthesis makes one tree of a list.
-/

universe u

namespace MiniLisp

theorem AtomToken.eq_of_text_eq {token other : AtomToken} (same : token.text = other.text) :
    token = other := by
  cases token
  cases other
  cases same
  rfl

namespace TokenTree

theorem flattenAll_append (children more : List TokenTree) :
    flattenAll (children ++ more) = flattenAll children ++ flattenAll more := by
  induction children with
  | nil => rfl
  | cons child children ih =>
      rw [List.cons_append, flattenAll, flattenAll, ih, List.append_assoc]

theorem flattenAll_concat (children : List TokenTree) (tree : TokenTree) :
    flattenAll (children ++ [tree]) = flattenAll children ++ tree.flatten := by
  rw [flattenAll_append, flattenAll, flattenAll, List.append_nil]

theorem exprs_concat (children : List TokenTree) (tree : TokenTree) :
    exprs (children ++ [tree]) = exprs children ++ [tree.expr] := by
  induction children with
  | nil => rfl
  | cons child children ih => rw [List.cons_append, exprs, exprs, ih, List.cons_append]

theorem depthOfAll_le {children : List TokenTree} {bound : Nat}
    (each : ∀ child ∈ children, child.depth ≤ bound) : depthOfAll children ≤ bound := by
  induction children with
  | nil => exact Nat.zero_le bound
  | cons child children ih =>
      rw [depthOfAll]
      exact Nat.max_le.2 ⟨each child List.mem_cons_self,
        ih fun other member => each other (List.mem_cons_of_mem _ member)⟩

/-- The tokens of a tree begin with an atom or with an opening parenthesis. -/
theorem exists_flatten_eq_cons (tree : TokenTree) :
    ∃ first rest, tree.flatten = first :: rest ∧ first ≠ ")" := by
  cases tree with
  | leaf token => exact ⟨token.text, [], rfl, token.notClose⟩
  | list children => exact ⟨"(", flattenAll children ++ [")"], rfl, by decide⟩

theorem flattenAll_cons_append_ne (child : TokenTree) (children : List TokenTree)
    (rest otherRest : List String) :
    flattenAll (child :: children) ++ rest ≠ ")" :: otherRest := by
  obtain ⟨first, more, shape, notClose⟩ := child.exists_flatten_eq_cons
  rw [flattenAll, shape]
  intro same
  exact notClose (List.cons.inj same).1

theorem flattenAll_append_inj {children others : List TokenTree} {rest otherRest : List String}
    (each : ∀ child ∈ children, ∀ other rest otherRest,
      child.flatten ++ rest = TokenTree.flatten other ++ otherRest →
        child = other ∧ rest = otherRest)
    (same : flattenAll children ++ ")" :: rest = flattenAll others ++ ")" :: otherRest) :
    children = others ∧ rest = otherRest := by
  induction children generalizing others with
  | nil =>
      cases others with
      | nil => exact ⟨rfl, (List.cons.inj same).2⟩
      | cons other others => exact absurd same.symm (flattenAll_cons_append_ne _ _ _ _)
  | cons child children ih =>
      cases others with
      | nil => exact absurd same (flattenAll_cons_append_ne _ _ _ _)
      | cons other others =>
          rw [flattenAll, flattenAll, List.append_assoc, List.append_assoc] at same
          obtain ⟨rfl, sameOthers⟩ := each child List.mem_cons_self other _ _ same
          obtain ⟨rfl, rfl⟩ :=
            ih (fun later member => each later (List.mem_cons_of_mem _ member)) sameOthers
          exact ⟨rfl, rfl⟩

/-- Tokens that begin with those of a tree begin with those of no other. -/
theorem flatten_append_inj {tree other : TokenTree} {rest otherRest : List String}
    (same : tree.flatten ++ rest = other.flatten ++ otherRest) :
    tree = other ∧ rest = otherRest := by
  induction tree using children_induction generalizing other rest otherRest with
  | leaf token =>
      cases other with
      | leaf otherToken =>
          obtain ⟨sameText, sameRest⟩ := List.cons.inj same
          exact ⟨congrArg leaf (AtomToken.eq_of_text_eq sameText), sameRest⟩
      | list others => exact absurd (List.cons.inj same).1 token.notOpen
  | list children ih =>
      cases other with
      | leaf otherToken => exact absurd (List.cons.inj same).1.symm otherToken.notOpen
      | list others =>
          rw [flatten, flatten, List.cons_append, List.cons_append, List.append_assoc,
            List.append_assoc] at same
          have each : ∀ child ∈ children, ∀ other rest otherRest,
              child.flatten ++ rest = TokenTree.flatten other ++ otherRest →
                child = other ∧ rest = otherRest :=
            fun child member other rest otherRest => ih child member
          obtain ⟨rfl, rfl⟩ := flattenAll_append_inj each (List.cons.inj same).2
          exact ⟨rfl, rfl⟩

end TokenTree

namespace Reader

/-- Tokens after which some lists are open: each list comes after its opening parenthesis,
and holds the expressions of trees that are nested within the limit there. -/
inductive OpenedBy : List String → List (List Expr) → Prop
  | outside : OpenedBy [] []
  | inside {tokens : List String} {opened : List (List Expr)} (before : OpenedBy tokens opened)
      (room : opened.length < maxDepth) (children : List TokenTree)
      (shallow : ∀ child ∈ children, opened.length + 1 + child.depth ≤ maxDepth) :
      OpenedBy (tokens ++ "(" :: TokenTree.flattenAll children)
        ((TokenTree.exprs children).reverse :: opened)

theorem OpenedBy.length_le {tokens : List String} {opened : List (List Expr)}
    (openedBy : OpenedBy tokens opened) : opened.length ≤ maxDepth := by
  cases openedBy with
  | outside => exact Nat.zero_le _
  | inside before room children shallow => exact room

/-- Where a reader stands after some tokens, told by trees. -/
def Progress.ReachedBy (tokens : List String) : Progress → Prop
  | .pending opened => OpenedBy tokens opened
  | .finished expr =>
      ∃ tree : TokenTree, tree.flatten = tokens ∧ tree.expr = expr ∧ tree.depth ≤ maxDepth
  | .failed _ => True

theorem OpenedBy.place {tokens : List String} {opened : List (List Expr)}
    (openedBy : OpenedBy tokens opened) (tree : TokenTree)
    (shallow : opened.length + tree.depth ≤ maxDepth) :
    (place tree.expr opened).ReachedBy (tokens ++ tree.flatten) := by
  cases openedBy with
  | outside =>
      rw [List.length_nil, Nat.zero_add] at shallow
      exact ⟨tree, rfl, rfl, shallow⟩
  | inside before room children fit =>
      have grown := before.inside room (children ++ [tree]) (by
        intro child member
        rcases List.mem_append.1 member with earlier | isLast
        · exact fit child earlier
        · rw [List.mem_singleton.1 isLast]
          exact shallow)
      rw [TokenTree.flattenAll_concat, TokenTree.exprs_concat, List.reverse_concat] at grown
      rw [List.append_assoc, List.cons_append]
      exact grown

/-- A token leads from trees to trees. -/
theorem OpenedBy.feed {tokens : List String} {opened : List (List Expr)}
    (openedBy : OpenedBy tokens opened) (token : String) :
    (feed opened token).ReachedBy (tokens ++ [token]) := by
  by_cases opens : token = "("
  · subst opens
    have within := openedBy.length_le
    by_cases full : opened.length = maxDepth
    · rw [feed_open_full full]
      trivial
    · have room : opened.length < maxDepth := by omega
      rw [feed_open room]
      exact openedBy.inside room [] (by simp)
  · by_cases closes : token = ")"
    · subst closes
      cases openedBy with
      | outside => trivial
      | @inside tokens outer before room children shallow =>
          have deepest : TokenTree.depthOfAll children ≤ maxDepth - (outer.length + 1) := by
            refine TokenTree.depthOfAll_le fun child member => ?_
            have bound := shallow child member
            omega
          have closed := before.place (.list children) (by
            rw [TokenTree.depth]
            omega)
          rw [feed_close, List.reverse_reverse, List.append_assoc, List.cons_append]
          exact closed
    · have placed := openedBy.place (.leaf ⟨token, opens, closes⟩) openedBy.length_le
      rw [feed_atom opened ⟨token, opens, closes⟩]
      exact placed

theorem exists_tree_of_outcome {before tokens : List String} {opened : List (List Expr)}
    {expr : Expr} {count : Nat} (openedBy : OpenedBy before opened)
    (read : outcome opened tokens = (.ok expr, count)) :
    ∃ tree : TokenTree, tree.flatten = before ++ tokens.take count ∧ tree.expr = expr ∧
      tree.depth ≤ maxDepth := by
  induction tokens generalizing before opened count with
  | nil => cases read
  | cons token tokens ih =>
      have reached := openedBy.feed token
      rw [outcome_cons] at read
      cases fed : Reader.feed opened token with
      | pending next =>
          rw [fed] at reached read
          cases later : outcome next tokens with
          | mk result more =>
              rw [proceed, later] at read
              cases read
              obtain ⟨tree, isFlat, isExpr, shallow⟩ := ih reached later
              refine ⟨tree, ?_, isExpr, shallow⟩
              rw [isFlat, List.append_assoc, List.singleton_append, List.take_succ_cons]
      | finished result =>
          rw [fed] at reached read
          cases read
          exact reached
      | failed error =>
          rw [fed] at read
          cases read

end Reader

namespace Cursor

variable {σ : Type u} [Source σ String]

/-- Read several expressions in a row, which leaves the cursor after the last. -/
def readMany : Nat → Cursor σ String → List (Except ReadError Expr) × Cursor σ String
  | 0, cursor => ([], cursor)
  | count + 1, cursor => (cursor.read.2.readMany count).map (cursor.read.1 :: ·) id

theorem read_of_flatten {cursor : Cursor σ String} {tree : TokenTree} {rest : List String}
    (shallow : tree.depth ≤ maxDepth) (toCome : cursor.remaining = tree.flatten ++ rest) :
    cursor.read.1 = .ok tree.expr ∧ cursor.Advanced tree.flatten.length cursor.read.2 ∧
      cursor.read.2.remaining = rest := by
  have within : ([] : List (List Expr)).length + tree.depth ≤ maxDepth := by
    rw [List.length_nil, Nat.zero_add]
    exact shallow
  have read : Reader.outcome [] cursor.remaining = (.ok tree.expr, tree.flatten.length) := by
    rw [toCome, Reader.outcome_flatten tree within, Reader.place, Reader.proceed, Prod.map_apply,
      id_eq, Nat.zero_add]
  obtain ⟨result, advanced⟩ := cursor.read_outcome
  rw [read] at result advanced
  refine ⟨result, advanced, ?_⟩
  rw [advanced.remaining_eq, toCome, List.drop_left]

theorem readMany_of_flattenAll {cursor : Cursor σ String} {trees : List TokenTree}
    (shallow : ∀ tree ∈ trees, tree.depth ≤ maxDepth)
    (toCome : cursor.remaining = TokenTree.flattenAll trees) :
    (cursor.readMany trees.length).1 = trees.map (fun tree => .ok tree.expr) ∧
      (cursor.readMany trees.length).2.remaining = [] := by
  induction trees generalizing cursor with
  | nil => exact ⟨rfl, toCome⟩
  | cons tree trees ih =>
      obtain ⟨result, -, left⟩ := read_of_flatten (shallow tree List.mem_cons_self) toCome
      obtain ⟨results, atEnd⟩ :=
        ih (fun later member => shallow later (List.mem_cons_of_mem _ member)) left
      refine ⟨?_, atEnd⟩
      rw [List.length_cons, readMany, Prod.map_fst, result, results, List.map_cons]

theorem exists_tree_of_read {cursor : Cursor σ String} {expr : Expr}
    (read : cursor.read.1 = .ok expr) :
    ∃ tree : TokenTree, cursor.remaining = tree.flatten ++ cursor.read.2.remaining ∧
      tree.expr = expr ∧ tree.depth ≤ maxDepth := by
  obtain ⟨result, advanced⟩ := cursor.read_outcome
  cases ended : Reader.outcome [] cursor.remaining with
  | mk found count =>
      rw [ended] at result advanced
      obtain rfl : found = .ok expr := result.symm.trans read
      obtain ⟨tree, isFlat, isExpr, shallow⟩ :=
        Reader.exists_tree_of_outcome Reader.OpenedBy.outside ended
      refine ⟨tree, ?_, isExpr, shallow⟩
      rw [isFlat, List.nil_append, advanced.remaining_eq, List.take_append_drop]

theorem atEnd_of_remaining_eq_nil {cursor : Cursor σ String} (nothing : cursor.remaining = []) :
    cursor.atEnd.1 = true := by
  have empty : cursor.look.ahead = [] := by
    rw [← List.head?_eq_none_iff, head?_look, nothing, List.head?_nil]
  rw [atEnd, empty, List.isEmpty_nil]

/-- Where the tokens to come begin with a flattened tree that is not nested too deep, reading
gives its expression and stops right after it, so that trees in a row are read in order up to
the end.  And whatever is read is such a tree, and only one. -/
theorem read_iff_flatten (cursor : Cursor σ String) :
    (∀ (tree : TokenTree) (rest : List String), tree.depth ≤ 1024 →
      cursor.remaining = tree.flatten ++ rest →
        cursor.read.1 = .ok tree.expr ∧ cursor.Advanced tree.flatten.length cursor.read.2 ∧
          cursor.read.2.remaining = rest) ∧
    (∀ trees : List TokenTree, (∀ tree ∈ trees, tree.depth ≤ 1024) →
      cursor.remaining = TokenTree.flattenAll trees →
        (cursor.readMany trees.length).1 = trees.map (fun tree => .ok tree.expr) ∧
          (cursor.readMany trees.length).2.atEnd.1 = true) ∧
    ∀ expr, cursor.read.1 = .ok expr →
      ∃ tree : TokenTree, cursor.remaining = tree.flatten ++ cursor.read.2.remaining ∧
        cursor.Advanced tree.flatten.length cursor.read.2 ∧ tree.expr = expr ∧
        tree.depth ≤ 1024 ∧
        ∀ other : TokenTree,
          cursor.remaining = other.flatten ++ cursor.read.2.remaining → other = tree := by
  refine ⟨?_, ?_, ?_⟩
  · intro tree rest shallow toCome
    exact read_of_flatten shallow toCome
  · intro trees shallow toCome
    obtain ⟨results, nothing⟩ := readMany_of_flattenAll shallow toCome
    exact ⟨results, atEnd_of_remaining_eq_nil nothing⟩
  · intro expr read
    obtain ⟨tree, toCome, isExpr, shallow⟩ := exists_tree_of_read read
    have advanced := (read_of_flatten shallow toCome).2.1
    refine ⟨tree, toCome, advanced, isExpr, shallow, ?_⟩
    intro other otherToCome
    exact (TokenTree.flatten_append_inj (otherToCome.symm.trans toCome)).1

/-- Two trees in a row, the second an empty list, are read up to the end. -/
theorem read_iff_flatten_in_a_row :
    let atom : TokenTree := .leaf ⟨"a", by decide, by decide⟩
    let trees : List TokenTree := [.list [atom, .list []], .list []]
    let cursor : Cursor (List String) String :=
      .ofSource ["(", "a", "(", ")", ")", "(", ")"]
    (∀ tree ∈ trees, tree.depth ≤ 1024) ∧
      cursor.remaining = TokenTree.flattenAll trees ∧
      (cursor.readMany 2).1 = [.ok (.list [.symbol "a", .list []]), .ok (.list [])] ∧
      (cursor.readMany 2).2.atEnd.1 = true := by
  intro atom trees cursor
  have shallow : ∀ tree ∈ trees, tree.depth ≤ 1024 := by decide
  have toCome : cursor.remaining = TokenTree.flattenAll trees := Source.toList_list _
  obtain ⟨results, atEnd⟩ := (read_iff_flatten cursor).2.1 trees shallow toCome
  exact ⟨shallow, toCome, results, atEnd⟩

end Cursor

end MiniLisp
