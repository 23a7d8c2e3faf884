import Mathlib.Logic.Relation
import MiniLisp.Proofs.ExecutedDefinitions
import MiniLisp.Proofs.ScopeChain

/-!
# Scopes told by their history

Scopes are made, and names are defined in them, directly or by evaluating
expressions and lines.  The history of the scopes is the sequence of these makings
and definitions, where an evaluation adds the definitions that it executes.  It says
all there is to know: a scope binds a name to the value last defined for it there, a
look-up takes the nearest scope on the chain where the name was ever defined, and the
names of a scope are those ever defined in it.

What carries the induction over operations is that the bindings of every scope are
the last definitions of the history.  Making a scope and making a definition keep
this, and an evaluation is a sequence of definitions in one scope.
-/

namespace MiniLisp

open Relation

namespace Scopes

/-- An event in the history of scopes: one is made, or a name is defined in one. -/
inductive Entry where
  | made (outer : Option ScopeId)
  | defined (scope : ScopeId) (name : String) (value : Value)

def Entry.value? (scope : ScopeId) (name : String) : Entry → Option Value
  | .made _ => none
  | .defined other otherName value =>
      if other = scope ∧ otherName = name then some value else none

def Entry.outer? : Entry → Option (Option ScopeId)
  | .made outer => some outer
  | .defined _ _ _ => none

/-- The value last defined for a name in a scope. -/
def latest? (history : List Entry) (scope : ScopeId) (name : String) : Option Value :=
  history.reverse.findSome? (Entry.value? scope name)

/-- For each scope made, in order, the scope that it was put inside. -/
def outers (history : List Entry) : List (Option ScopeId) :=
  history.filterMap Entry.outer?

theorem latest?_concat (history : List Entry) (entry : Entry) (scope : ScopeId)
    (name : String) :
    latest? (history ++ [entry]) scope name =
      (entry.value? scope name).or (latest? history scope name) := by
  rw [latest?, latest?, List.reverse_append, List.reverse_singleton, List.singleton_append,
    List.findSome?_cons]
  cases entry.value? scope name <;> rfl

theorem outers_append (history later : List Entry) :
    outers (history ++ later) = outers history ++ outers later :=
  List.filterMap_append

/-- A name has a last value in a scope exactly if it was ever defined there. -/
theorem latest?_isSome_iff {history : List Entry} {scope : ScopeId} {name : String} :
    (latest? history scope name).isSome = true ↔
      ∃ value, Entry.defined scope name value ∈ history := by
  rw [latest?, List.isSome_findSome?, List.any_eq_true]
  constructor
  · rintro ⟨entry, member, defines⟩
    cases entry with
    | made outer => simp [Entry.value?] at defines
    | defined other otherName value =>
        by_cases same : other = scope ∧ otherName = name
        · obtain ⟨rfl, rfl⟩ := same
          exact ⟨value, List.mem_reverse.1 member⟩
        · simp [Entry.value?, same] at defines
  · rintro ⟨value, member⟩
    exact ⟨_, List.mem_reverse.2 member, by simp [Entry.value?]⟩

/-- One operation on the scopes made so far: make one where the built-in procedures
have their symbols, make one without bindings, define a name, or evaluate an
expression or a line. -/
inductive Action where
  | root
  | new (outer : Option ScopeId)
  | define (scope : ScopeId) (name : String) (value : Value)
  | evalExpr (scope : ScopeId) (expr : Expr)
  | evalLine (scope : ScopeId) (line : String)

namespace Action

/-- An operation needs the scopes that it names. -/
def Possible (scopes : Scopes) : Action → Prop
  | .root => True
  | .new outer => ∀ number, outer = some number → number < scopes.count
  | .define scope _ _ | .evalExpr scope _ | .evalLine scope _ => scope < scopes.count

def scope (scopes : Scopes) : Action → ScopeId
  | .root | .new _ => scopes.count
  | .define scope _ _ | .evalExpr scope _ | .evalLine scope _ => scope

/-- The scopes after an operation. -/
def effect (scopes : Scopes) : Action → Scopes
  | .root => (Evaluation.newRoot scopes).scopes
  | .new outer => (Evaluation.newScope outer scopes).scopes
  | .define scope name value => (Evaluation.define scope name value scopes).scopes
  | .evalExpr scope expr => (eval scope expr scopes).scopes
  | .evalLine scope line => (Interpreter.outcome { scopes, scope } line).scopes

/-- The scopes that an operation makes, before it defines anything. -/
def opened : Action → List Entry
  | .root => [.made none]
  | .new outer => [.made outer]
  | .define _ _ _ | .evalExpr _ _ | .evalLine _ _ => []

/-- The definitions that an operation makes, in order. -/
def definitions (scopes : Scopes) : Action → List (String × Value)
  | .root => Builtin.all.map fun builtin => (builtin.symbol, .procedure builtin)
  | .new _ => []
  | .define _ name value => [(name, value)]
  | .evalExpr scope expr => executions scope scopes expr
  | .evalLine scope line => executionsOfLine scope scopes line

/-- What an operation adds to the history: the scope that it makes, and its
definitions, all in the scope that it is about. -/
def entries (scopes : Scopes) (action : Action) : List Entry :=
  action.opened ++ (action.definitions scopes).map fun entry =>
    .defined (action.scope scopes) entry.1 entry.2

end Action

/-- Scopes with the history that has led to them. -/
structure Record where
  scopes : Scopes
  history : List Entry

namespace Record

def start : Record where
  scopes := Scopes.empty
  history := []

def after (record : Record) (action : Action) : Record where
  scopes := action.effect record.scopes
  history := record.history ++ action.entries record.scopes

def Step (before later : Record) : Prop :=
  ∃ action : Action, action.Possible before.scopes ∧ later = before.after action

theorem reached_after {first record : Record} (reached : ReflTransGen Step first record)
    {action : Action} (possible : action.Possible record.scopes) :
    ReflTransGen Step first (record.after action) :=
  reached.tail ⟨action, possible, rfl⟩

/-- What the scopes of a record are is what its history says. -/
structure Faithful (record : Record) : Prop where
  made : ∀ scope, scope < record.scopes.count →
    (outers record.history)[scope]? = some (record.scopes.outer? scope)
  count : (outers record.history).length = record.scopes.count
  latest : ∀ scope name,
    (record.scopes.bindings scope)[name]? = latest? record.history scope name

end Record

theorem isSome_bindings_replay {scope other : ScopeId} (definitions : List (String × Value))
    {scopes : Scopes} {name : String} (known : scope < scopes.count)
    (bound : (scopes.bindings other)[name]?.isSome = true) :
    ((scopes.replay scope definitions).bindings other)[name]?.isSome = true := by
  induction definitions generalizing scopes with
  | nil => exact bound
  | cons entry definitions ih =>
      refine ih (by rw [count_define]; exact known) ?_
      rw [getElem?_bindings_define _ _ known]
      split
      · rfl
      · exact bound

/-- The scopes once an operation has made what it makes. -/
def Action.begun (scopes : Scopes) : Action → Scopes
  | .root => scopes.add none
  | .new outer => scopes.add outer
  | .define _ _ _ | .evalExpr _ _ | .evalLine _ _ => scopes

/-- Every operation makes at most one scope, and then makes its definitions in the
scope that it is about. -/
theorem Action.effect_eq_replay (scopes : Scopes) (action : Action) :
    action.effect scopes =
      (action.begun scopes).replay (action.scope scopes) (action.definitions scopes) := by
  cases action with
  | root =>
      have defined : Evaluation.DefinesIn scopes.count (Evaluation.defineAll _ Builtin.all) :=
        Evaluation.definesIn_defineAll Builtin.all
      have replayed := defined (scopes.add none)
      rw [definitions_defineAll] at replayed
      exact replayed
  | new outer => rfl
  | define scope name value => rfl
  | evalExpr scope expr =>
      have replayed := definesIn_eval scope expr scopes
      rw [definitions_eval] at replayed
      exact replayed
  | evalLine scope line =>
      have replayed := definesIn_evalLine scope line scopes
      rw [definitions_evalLine] at replayed
      exact replayed

theorem Action.scope_lt_count_begun {scopes : Scopes} {action : Action}
    (possible : action.Possible scopes) :
    action.scope scopes < (action.begun scopes).count := by
  cases action with
  | root => exact (count_add none scopes).symm ▸ Nat.lt_succ_self scopes.count
  | new outer => exact (count_add outer scopes).symm ▸ Nat.lt_succ_self scopes.count
  | define scope name value => exact possible
  | evalExpr scope expr => exact possible
  | evalLine scope line => exact possible

theorem Action.outer?_begun {scopes : Scopes} (action : Action) {other : ScopeId}
    (known : other < scopes.count) :
    (action.begun scopes).outer? other = scopes.outer? other := by
  cases action with
  | root => exact (outer?_add none scopes other).trans (if_neg (Nat.ne_of_lt known))
  | new outer => exact (outer?_add outer scopes other).trans (if_neg (Nat.ne_of_lt known))
  | _ => rfl

theorem Action.bindings_begun (scopes : Scopes) (action : Action) (other : ScopeId) :
    (action.begun scopes).bindings other = scopes.bindings other := by
  cases action with
  | root => exact bindings_add none scopes other
  | new outer => exact bindings_add outer scopes other
  | _ => rfl

/-- An operation leaves the chains of the scopes there are. -/
theorem Action.chain_effect {scopes : Scopes} (action : Action) {scope : ScopeId}
    (known : scope < scopes.count) :
    (action.effect scopes).chain scope = scopes.chain scope := by
  refine chain_congr fun number bound => ?_
  rw [action.effect_eq_replay, outer?_replay]
  exact action.outer?_begun (Nat.lt_of_le_of_lt bound known)

theorem Action.bindings_effect_of_ne {scopes : Scopes} {action : Action}
    (possible : action.Possible scopes) {other : ScopeId}
    (differs : other ≠ action.scope scopes) :
    (action.effect scopes).bindings other = scopes.bindings other := by
  rw [action.effect_eq_replay,
    bindings_replay_of_ne _ (scope_lt_count_begun possible) differs, bindings_begun]

theorem Action.isSome_bindings_effect {scopes : Scopes} {action : Action}
    (possible : action.Possible scopes) {other : ScopeId} {name : String}
    (bound : (scopes.bindings other)[name]?.isSome = true) :
    ((action.effect scopes).bindings other)[name]?.isSome = true := by
  rw [action.effect_eq_replay]
  refine isSome_bindings_replay _ (scope_lt_count_begun possible) ?_
  rw [bindings_begun]
  exact bound

theorem Action.count_effect (scopes : Scopes) (action : Action) :
    (action.effect scopes).count = (action.begun scopes).count := by
  rw [action.effect_eq_replay, count_replay]

namespace Record

theorem faithful_start : Faithful start where
  made := by
    intro scope known
    exact absurd known (Nat.not_lt_zero scope)
  count := rfl
  latest := by
    intro scope name
    have unbound : start.scopes.bindings scope = ∅ := bindings_of_count_le (Nat.zero_le scope)
    rw [unbound]
    exact Std.ExtTreeMap.getElem?_empty

theorem Faithful.add {scopes : Scopes} {history : List Entry} {outer : Option ScopeId}
    (faithful : Faithful { scopes, history })
    (possible : ∀ number, outer = some number → number < scopes.count) :
    Faithful { scopes := scopes.add outer, history := history ++ [.made outer] } where
  made := by
    intro scope known
    have length := faithful.count
    dsimp only at length known ⊢
    rw [count_add] at known
    rw [outers_append, outer?_add]
    by_cases isNew : scope = scopes.count
    · have kept : (outer.filter fun number => number < scopes.count) = outer := by
        cases outer with
        | none => rfl
        | some number => simp [possible number rfl]
      rw [if_pos isNew, kept, List.getElem?_append_right (by omega), isNew, length,
        Nat.sub_self]
      rfl
    · rw [if_neg isNew, List.getElem?_append_left (by omega)]
      exact faithful.made scope (by dsimp only; omega)
  count := by
    have length := faithful.count
    dsimp only at length ⊢
    rw [outers_append, List.length_append, length, count_add]
    rfl
  latest := by
    intro scope name
    dsimp only
    rw [bindings_add, latest?_concat]
    exact faithful.latest scope name

theorem Faithful.define {scopes : Scopes} {history : List Entry} {scope : ScopeId}
    (faithful : Faithful { scopes, history }) (known : scope < scopes.count) (name : String)
    (value : Value) :
    Faithful
      { scopes := scopes.define scope name value
        history := history ++ [.defined scope name value] } where
  made := by
    intro other bound
    dsimp only at bound ⊢
    rw [count_define] at bound
    rw [outers_append, outer?_define]
    exact (List.append_nil _).symm ▸ faithful.made other bound
  count := by
    have length := faithful.count
    dsimp only at length ⊢
    rw [outers_append, count_define, ← length]
    exact congrArg List.length (List.append_nil _)
  latest := by
    intro other otherName
    have before := faithful.latest other otherName
    dsimp only at before ⊢
    rw [getElem?_bindings_define name value known, latest?_concat, before]
    by_cases same : scope = other ∧ name = otherName
    · simp [Entry.value?, same]
    · simp [Entry.value?, same]

theorem Faithful.replay {scopes : Scopes} {history : List Entry} {scope : ScopeId}
    (faithful : Faithful { scopes, history }) (known : scope < scopes.count)
    (definitions : List (String × Value)) :
    Faithful
      { scopes := scopes.replay scope definitions
        history := history ++ definitions.map fun entry => .defined scope entry.1 entry.2 } := by
  induction definitions generalizing scopes history with
  | nil =>
      rw [List.map_nil, List.append_nil]
      exact faithful
  | cons entry definitions ih =>
      have next := ih (faithful.define known entry.1 entry.2) (by rw [count_define]; exact known)
      rw [List.append_assoc] at next
      exact next

theorem Faithful.begin {record : Record} (faithful : Faithful record) {action : Action}
    (possible : action.Possible record.scopes) :
    Faithful
      { scopes := action.begun record.scopes
        history := record.history ++ action.opened } := by
  cases action with
  | root => exact faithful.add (by simp)
  | new outer => exact faithful.add possible
  | define scope name value => exact (List.append_nil record.history).symm ▸ faithful
  | evalExpr scope expr => exact (List.append_nil record.history).symm ▸ faithful
  | evalLine scope line => exact (List.append_nil record.history).symm ▸ faithful

theorem Faithful.step {before later : Record} (faithful : Faithful before)
    (stepped : Step before later) : Faithful later := by
  obtain ⟨action, possible, rfl⟩ := stepped
  have begun := faithful.begin possible
  have replayed := begun.replay (Action.scope_lt_count_begun possible)
    (action.definitions before.scopes)
  rw [← Action.effect_eq_replay, List.append_assoc] at replayed
  exact replayed

/-- The history stays faithful over any sequence of operations. -/
theorem Faithful.run {record later : Record} (faithful : Faithful record)
    (reached : ReflTransGen Step record later) : Faithful later := by
  induction reached with
  | refl => exact faithful
  | tail _ stepped ih => exact ih.step stepped

/-- A name that can be looked up in a scope still can after an operation. -/
theorem lookup?_isSome_of_step {before later : Record} (stepped : Step before later)
    {scope : ScopeId} {name : String}
    (resolved : (before.scopes.lookup? scope name).isSome = true) :
    (later.scopes.lookup? scope name).isSome = true := by
  obtain ⟨action, possible, rfl⟩ := stepped
  by_cases known : scope < before.scopes.count
  · exact lookup?_isSome_of_le (action.chain_effect known)
      (fun number _ => Action.isSome_bindings_effect possible) resolved
  · -- Nothing can be looked up in a scope that has not been made.
    have unmade := Nat.le_of_not_lt known
    rw [lookup?_eq_findSome?, chain_of_outer?_eq_none (outer?_of_count_le unmade),
      List.findSome?_singleton, bindings_of_count_le unmade,
      Std.ExtTreeMap.getElem?_empty] at resolved
    exact absurd resolved (by simp)

theorem lookup?_isSome_of_run {record later : Record} (reached : ReflTransGen Step record later)
    {scope : ScopeId} {name : String}
    (resolved : (record.scopes.lookup? scope name).isSome = true) :
    (later.scopes.lookup? scope name).isSome = true := by
  induction reached with
  | refl => exact resolved
  | tail _ stepped ih => exact lookup?_isSome_of_step stepped ih

/-- What the history of a record says of look-ups and names, and what more operations
can and cannot change in it. -/
structure FollowsHistory (record : Record) : Prop where
  outer : ∀ scope, scope < record.scopes.count →
    (outers record.history)[scope]? = some (record.scopes.outer? scope)
  resolved : ∀ scope name, record.scopes.lookup? scope name =
    (record.scopes.chain scope).findSome? fun number => latest? record.history number name
  unresolved : ∀ scope name, record.scopes.lookup? scope name = none ↔
    ∀ number ∈ record.scopes.chain scope, ∀ value,
      Entry.defined number name value ∉ record.history
  isLocal : ∀ scope name, record.scopes.isLocal scope name = true ↔
    ∃ value, Entry.defined scope name value ∈ record.history
  names : ∀ scope name, name ∈ record.scopes.names scope ↔
    ∃ value, Entry.defined scope name value ∈ record.history
  ascending : ∀ scope, (record.scopes.names scope).Pairwise (· < ·)
  /-- An operation changes a look-up only from its own scope outward, and only where
  no nearer scope binds the name. -/
  hidden : ∀ action : Action, action.Possible record.scopes →
    ∀ scope, scope < record.scopes.count → ∀ name,
      (record.after action).scopes.lookup? scope name ≠ record.scopes.lookup? scope name →
      ∃ nearer further,
        record.scopes.chain scope = nearer ++ action.scope record.scopes :: further ∧
          ∀ number ∈ nearer, record.scopes.isLocal number name = false
  /-- What can be looked up in a scope can always be. -/
  kept : ∀ later, ReflTransGen Step record later → ∀ scope name,
    (record.scopes.lookup? scope name).isSome = true →
      (later.scopes.lookup? scope name).isSome = true

theorem Faithful.followsHistory {record : Record} (faithful : Faithful record) :
    FollowsHistory record where
  outer := faithful.made
  resolved := by
    intro scope name
    rw [lookup?_eq_findSome?]
    exact congrArg (List.findSome? · _) (funext fun number => faithful.latest number name)
  unresolved := by
    intro scope name
    rw [lookup?_eq_none_iff]
    refine forall_congr' fun number => imp_congr_right fun _ => ?_
    rw [faithful.latest, ← Option.not_isSome_iff_eq_none, latest?_isSome_iff, not_exists]
  isLocal := by
    intro scope name
    rw [isLocal_eq_isSome, faithful.latest, latest?_isSome_iff]
  names := by
    intro scope name
    rw [mem_names_iff, faithful.latest, latest?_isSome_iff]
  ascending := pairwise_names record.scopes
  hidden := by
    intro action possible scope known name differs
    exact exists_chain_of_lookup?_ne (action.chain_effect known)
      (fun number _ => Action.bindings_effect_of_ne possible) differs
  kept := by
    intro later reached scope name
    exact lookup?_isSome_of_run reached

/-- Whatever operations have led to them, and in whatever order, what scopes resolve
and list is what their history says. -/
theorem followsHistory_of_reached {record : Record} (reached : ReflTransGen Step start record) :
    FollowsHistory record :=
  (faithful_start.run reached).followsHistory

/-- A name is defined in a root, and hidden by a line in a scope inside it. -/
theorem followsHistory_hiding :
    let record := (((start.after .root).after (.new (some 0))).after
      (.define 0 "x" .null)).after (.evalLine 1 "(define x true)")
    ReflTransGen Step start record ∧ FollowsHistory record := by
  have one : (start.after .root).scopes.count = 1 := Action.count_effect _ _
  have two : ((start.after .root).after (.new (some 0))).scopes.count = 2 := by
    rw [after, Action.count_effect, Action.begun, count_add, one]
  have still : (((start.after .root).after (.new (some 0))).after
      (.define 0 "x" .null)).scopes.count = 2 := by
    rw [after, Action.count_effect, Action.begun, two]
  have rooted : ReflTransGen Step start (start.after .root) :=
    reached_after .refl trivial
  have inner : Action.Possible (start.after .root).scopes (.new (some 0)) := by
    simp [Action.Possible, one]
  have nested := reached_after rooted inner
  have outward : Action.Possible _ (.define 0 "x" .null) := two ▸ Nat.zero_lt_two
  have defined := reached_after nested outward
  have inward : Action.Possible _ (.evalLine 1 "(define x true)") := still ▸ Nat.one_lt_two
  have reached := reached_after defined inward
  exact ⟨reached, followsHistory_of_reached reached⟩

end Record

end Scopes

end MiniLisp
