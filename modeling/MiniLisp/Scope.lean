import MiniLisp.Value
import Std.Data.ExtTreeMap

/-!
# Scopes

A scope binds names to values, and may lie inside an outer scope, whose
bindings it sees as far as it does not hide them by its own.  Scopes are
numbered in the order in which they are made, so that an outer scope always has
a lower number than the scopes inside it, and a look-up that moves outward comes
to an end.

A definition goes into one scope and touches no other.
-/

namespace MiniLisp

/-- The bindings of one scope.  They are kept in the order of their names, so that what a scope
binds is listed in order without being sorted. -/
abbrev Bindings :=
  Std.ExtTreeMap String Value

abbrev ScopeId :=
  Nat

structure Frame where
  bindings : Bindings
  outer : Option ScopeId

structure Scopes where
  frames : Array Frame
  outer_lt : ∀ {scope : ScopeId} {frame : Frame} {outer : ScopeId},
    frames[scope]? = some frame → frame.outer = some outer → outer < scope

namespace Scopes

def empty : Scopes where
  frames := #[]
  outer_lt := by
    intro scope frame outer found
    simp at found

/-- The number of scopes, which is also the number that the next one gets. -/
def count (scopes : Scopes) : Nat :=
  scopes.frames.size

/-- Make a scope without bindings inside an outer one, or inside none.  A scope
that has not been made yet is none. -/
def add (outer : Option ScopeId) (scopes : Scopes) : Scopes where
  frames :=
    scopes.frames.push
      { bindings := ∅, outer := outer.filter fun number => number < scopes.count }
  outer_lt := by
    intro scope frame number found around
    rw [Array.getElem?_push] at found
    split at found
    · next isNew =>
      cases found
      simp only [Option.filter_eq_some_iff, decide_eq_true_eq] at around
      exact isNew ▸ around.2
    · exact scopes.outer_lt found around

/-- Bind a name to a value in one scope.  What the name was bound to there is
forgotten. -/
def define (scope : ScopeId) (name : String) (value : Value) (scopes : Scopes) : Scopes where
  frames :=
    scopes.frames.modify scope fun frame =>
      { frame with bindings := frame.bindings.insert name value }
  outer_lt := by
    intro other frame outer found around
    rw [Array.getElem?_modify] at found
    split at found
    · obtain ⟨before, foundBefore, rfl⟩ := Option.map_eq_some_iff.1 found
      exact scopes.outer_lt foundBefore around
    · exact scopes.outer_lt found around

def bindings (scopes : Scopes) (scope : ScopeId) : Bindings :=
  match scopes.frames[scope]? with
  | some frame => frame.bindings
  | none => ∅

def outer? (scopes : Scopes) (scope : ScopeId) : Option ScopeId :=
  scopes.frames[scope]?.bind Frame.outer

theorem lt_of_outer? {scopes : Scopes} {scope outer : ScopeId}
    (around : scopes.outer? scope = some outer) : outer < scope := by
  obtain ⟨frame, found, isOuter⟩ := Option.bind_eq_some_iff.1 around
  exact scopes.outer_lt found isOuter

/-- What a name is bound to in the nearest scope, going outward, that binds it. -/
def lookup? (scopes : Scopes) (scope : ScopeId) (name : String) : Option Value :=
  match (scopes.bindings scope)[name]? with
  | some value => some value
  | none =>
    match _ : scopes.outer? scope with
    | some outer => scopes.lookup? outer name
    | none => none
termination_by scope
decreasing_by exact lt_of_outer? ‹_›

def isLocal (scopes : Scopes) (scope : ScopeId) (name : String) : Bool :=
  (scopes.bindings scope).contains name

/-- The names that a scope binds itself, in ascending order. -/
def names (scopes : Scopes) (scope : ScopeId) : List String :=
  (scopes.bindings scope).keys

@[simp] theorem count_add (outer : Option ScopeId) (scopes : Scopes) :
    (scopes.add outer).count = scopes.count + 1 := by
  simp [count, add]

@[simp] theorem count_define (scope : ScopeId) (name : String) (value : Value)
    (scopes : Scopes) : (scopes.define scope name value).count = scopes.count := by
  simp [count, define]

/-- A new scope gets the next number, and lies inside the outer one if that has been
made. -/
theorem outer?_add (outer : Option ScopeId) (scopes : Scopes) (other : ScopeId) :
    (scopes.add outer).outer? other =
      if other = scopes.count then outer.filter fun number => number < scopes.count
      else scopes.outer? other := by
  rw [outer?, add, Array.getElem?_push]
  change Option.bind (if other = scopes.count then _ else _) _ = _
  split <;> rfl

@[simp] theorem bindings_add (outer : Option ScopeId) (scopes : Scopes) (other : ScopeId) :
    (scopes.add outer).bindings other = scopes.bindings other := by
  simp only [bindings, add, Array.getElem?_push]
  by_cases isNew : other = scopes.frames.size
  · subst isNew
    simp
  · simp [isNew]

theorem bindings_of_count_le {scopes : Scopes} {scope : ScopeId}
    (unmade : scopes.count ≤ scope) : scopes.bindings scope = ∅ := by
  simp [bindings, Array.getElem?_eq_none unmade]

theorem outer?_of_count_le {scopes : Scopes} {scope : ScopeId}
    (unmade : scopes.count ≤ scope) : scopes.outer? scope = none := by
  simp [outer?, Array.getElem?_eq_none unmade]

@[simp] theorem outer?_define (scope other : ScopeId) (name : String) (value : Value)
    (scopes : Scopes) :
    (scopes.define scope name value).outer? other = scopes.outer? other := by
  simp only [outer?, define, Array.getElem?_modify]
  split <;> cases scopes.frames[other]? <;> rfl

/-- A definition adds to the bindings of its own scope and to no others. -/
theorem bindings_define {scope : ScopeId} (name : String) (value : Value) {scopes : Scopes}
    (known : scope < scopes.count) (other : ScopeId) :
    (scopes.define scope name value).bindings other =
      if other = scope then (scopes.bindings scope).insert name value
      else scopes.bindings other := by
  simp only [bindings, define, Array.getElem?_modify]
  by_cases isSame : scope = other
  · subst isSame
    have found : scopes.frames[scope]? = some scopes.frames[scope] :=
      Array.getElem?_eq_getElem known
    simp [found]
  · simp [isSame, Ne.symm isSame]

end Scopes

end MiniLisp
