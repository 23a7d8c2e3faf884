import MiniLisp.Proofs.AgreeingScopes

/-!
# Expressions that do not depend on each other

Evaluating an expression changes what some names are bound to, and these are targets of its
`define` forms.  An expression that reads none of them ends as it would have ended before,
and makes the same definitions.  Of two expressions neither of which reads or writes what
the other writes, either can come first: each ends in the same way, also where it fails, and
the definitions of both together leave the same scopes in either order.
-/

namespace MiniLisp

namespace Scopes

theorem replay_of_count_le {scopes : Scopes} {scope : ScopeId} (unmade : scopes.count ≤ scope)
    (definitions : List (String × Value)) : scopes.replay scope definitions = scopes := by
  induction definitions with
  | nil => rfl
  | cons entry definitions ih =>
      change (scopes.define scope entry.1 entry.2).replay scope definitions = scopes
      rw [define_of_count_le unmade, ih]

theorem lookup?_replay (changed : ScopeId) {definitions : List (String × Value)} {name : String}
    (others : ∀ entry ∈ definitions, entry.1 ≠ name) (scopes : Scopes) (scope : ScopeId) :
    (scopes.replay changed definitions).lookup? scope name = scopes.lookup? scope name := by
  induction definitions generalizing scopes with
  | nil => rfl
  | cons entry definitions ih =>
      rw [List.forall_mem_cons] at others
      exact (ih others.2 _).trans (lookup?_define_of_ne changed others.1 entry.2 scopes scope)

theorem replay_define (scope : ScopeId) {definitions : List (String × Value)} {name : String}
    (others : ∀ entry ∈ definitions, entry.1 ≠ name) (value : Value) (scopes : Scopes) :
    (scopes.replay scope definitions).define scope name value =
      (scopes.define scope name value).replay scope definitions := by
  induction definitions generalizing scopes with
  | nil => rfl
  | cons entry definitions ih =>
      rw [List.forall_mem_cons] at others
      refine (ih others.2 _).trans ?_
      rw [define_comm scope others.1]
      rfl

/-- Definitions of some names and then of others leave what the others and then the first
would leave. -/
theorem replay_comm (scope : ScopeId) {definitions later : List (String × Value)}
    (apart : ∀ entry ∈ later, ∀ other ∈ definitions, other.1 ≠ entry.1) (scopes : Scopes) :
    (scopes.replay scope definitions).replay scope later =
      (scopes.replay scope later).replay scope definitions := by
  induction later generalizing scopes with
  | nil => rfl
  | cons entry later ih =>
      rw [List.forall_mem_cons] at apart
      change ((scopes.replay scope definitions).define scope entry.1 entry.2).replay scope later =
        ((scopes.define scope entry.1 entry.2).replay scope later).replay scope definitions
      rw [replay_define scope apart.1, ih apart.2]

end Scopes

/-- Definitions of other names than some do not disturb agreement on these. -/
theorem agreement_replay {names : Set String} {scope : ScopeId} {scopes : Scopes}
    (known : scope < scopes.count) (changed : ScopeId) {definitions : List (String × Value)}
    (others : ∀ entry ∈ definitions, entry.1 ∉ names) :
    Agreement names scope scope (scopes.replay changed definitions) scopes where
  known := by
    rw [Scopes.count_replay]
    exact known
  otherKnown := known
  lookup? := by
    intro name member
    apply Scopes.lookup?_replay
    rintro entry isEntry rfl
    exact others entry isEntry member

/-- Definitions of names that an expression does not read, in whatever scope, change neither
how it ends nor what it tells. -/
theorem eval_replay {scope : ScopeId} {scopes : Scopes} (known : scope < scopes.count)
    (changed : ScopeId) {definitions : List (String × Value)} {expr : Expr}
    (unread : ∀ entry ∈ definitions, entry.1 ∉ expr.reads) :
    (eval scope expr (scopes.replay changed definitions)).result =
        (eval scope expr scopes).result ∧
      (eval scope expr (scopes.replay changed definitions)).events =
        (eval scope expr scopes).events := by
  have agree : Agreement (fun name => name ∈ expr.reads) scope scope
      (scopes.replay changed definitions) scopes :=
    agreement_replay known changed unread
  have alike := alike_eval_of_reads (fun _ read => read) _ _ agree
  exact ⟨alike.1, alike.2.1⟩

/-- After an expression, another one that reads none of its targets ends and tells as it
would have before. -/
theorem eval_after_eval {first second : Expr}
    (unread : ∀ name, .symbol name ∈ first.targets → name ∉ second.reads)
    (scope : ScopeId) (scopes : Scopes) :
    (eval scope second (eval scope first scopes).scopes).result =
        (eval scope second scopes).result ∧
      (eval scope second (eval scope first scopes).scopes).events =
        (eval scope second scopes).events := by
  rw [definesIn_eval scope first scopes]
  by_cases known : scope < scopes.count
  · apply eval_replay known
    intro entry told
    exact unread entry.1 (mem_targets_of_mem_definitions told)
  · rw [Scopes.replay_of_count_le (Nat.le_of_not_lt known)]
    exact ⟨rfl, rfl⟩

/-- If neither of two expressions has a symbol that the other defines, it makes no
difference which is evaluated first. -/
theorem eval_comm {first second : Expr}
    (apart : ∀ name, .symbol name ∈ first.targets → name ∉ second.symbols)
    (otherApart : ∀ name, .symbol name ∈ second.targets → name ∉ first.symbols)
    (scope : ScopeId) (scopes : Scopes) :
    (eval scope first (eval scope second scopes).scopes).result =
        (eval scope first scopes).result ∧
      (eval scope second (eval scope first scopes).scopes).result =
        (eval scope second scopes).result ∧
      (eval scope second (eval scope first scopes).scopes).scopes =
        (eval scope first (eval scope second scopes).scopes).scopes := by
  have unread : ∀ name, .symbol name ∈ first.targets → name ∉ second.reads :=
    fun name target read => apart name target (Expr.mem_symbols_of_mem_reads read)
  have otherUnread : ∀ name, .symbol name ∈ second.targets → name ∉ first.reads :=
    fun name target read => otherApart name target (Expr.mem_symbols_of_mem_reads read)
  obtain ⟨secondResult, secondEvents⟩ := eval_after_eval unread scope scopes
  obtain ⟨firstResult, firstEvents⟩ := eval_after_eval otherUnread scope scopes
  refine ⟨firstResult, secondResult, ?_⟩
  rw [definesIn_eval scope second, secondEvents, definesIn_eval scope first scopes,
    definesIn_eval scope first (eval scope second scopes).scopes, firstEvents,
    definesIn_eval scope second scopes]
  apply Scopes.replay_comm
  -- A name defined by both would be a symbol of each and a target of the other.
  intro entry told other otherTold same
  have target := mem_targets_of_mem_definitions otherTold
  rw [same] at target
  exact apart entry.1 target
    (Expr.mem_symbols_of_mem_targets (mem_targets_of_mem_definitions told))

/-- An expression that fails after a definition, and one that defines another name. -/
theorem eval_comm_failing :
    let first : Expr :=
      .list [.symbol "f", .list [.symbol "define", .symbol "x", .null], .symbol "y"]
    let second : Expr :=
      .list [.symbol "define", .symbol "z", .list [.symbol "if", .boolean true, .null, .symbol "u"]]
    let scopes := Scopes.empty.add none
    (∀ name, .symbol name ∈ first.targets → name ∉ second.symbols) ∧
      (∀ name, .symbol name ∈ second.targets → name ∉ first.symbols) ∧
      (eval 0 first scopes).result = .error (.undefined "y") ∧
      (eval 0 first (eval 0 second scopes).scopes).result = .error (.undefined "y") ∧
      (eval 0 second scopes).result = .ok .null ∧
      (eval 0 second (eval 0 first scopes).scopes).result = .ok .null ∧
      (eval 0 second (eval 0 first scopes).scopes).scopes =
        (eval 0 first (eval 0 second scopes).scopes).scopes := by
  intro first second scopes
  have apart : ∀ name, .symbol name ∈ first.targets → name ∉ second.symbols := by
    intro name target
    obtain rfl : name = "x" := Expr.symbol.inj (List.mem_singleton.1 target)
    decide
  have otherApart : ∀ name, .symbol name ∈ second.targets → name ∉ first.symbols := by
    intro name target
    obtain rfl : name = "z" := Expr.symbol.inj (List.mem_singleton.1 target)
    decide
  have failed : (eval 0 first scopes).result = .error (.undefined "y") := by
    subst first scopes
    cbv
  have ended : (eval 0 second scopes).result = .ok .null := by
    subst second scopes
    cbv
  obtain ⟨firstResult, secondResult, same⟩ := eval_comm apart otherApart 0 scopes
  exact ⟨apart, otherApart, failed, firstResult.trans failed, ended, secondResult.trans ended, same⟩

end MiniLisp
