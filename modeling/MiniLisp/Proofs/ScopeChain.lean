import Mathlib.Data.List.Basic
import MiniLisp.Scope

/-!
# Chains of scopes

The scopes that a look-up visits form the chain of the scope it starts from: that
scope, the one around it, and so on.  A look-up gives the first binding of the name
along the chain.  So a change of the bindings in one scope is seen only where that
scope is on the chain and no nearer one binds the name, and what is bound somewhere
on the chain can be looked up.
-/

namespace MiniLisp

namespace Scopes

/-- A scope and the scopes around it, going outward. -/
def chain (scopes : Scopes) (scope : ScopeId) : List ScopeId :=
  match _ : scopes.outer? scope with
  | some outer => scope :: scopes.chain outer
  | none => [scope]
termination_by scope
decreasing_by exact lt_of_outer? ‹_›

theorem chain_of_outer?_eq_some {scopes : Scopes} {scope outer : ScopeId}
    (around : scopes.outer? scope = some outer) :
    scopes.chain scope = scope :: scopes.chain outer := by
  rw [chain]
  split <;> simp_all

theorem chain_of_outer?_eq_none {scopes : Scopes} {scope : ScopeId}
    (outermost : scopes.outer? scope = none) : scopes.chain scope = [scope] := by
  rw [chain]
  split <;> simp_all

/-- The chain of a scope depends only on what lies around the scopes up to it. -/
theorem chain_congr {scopes later : Scopes} {scope : ScopeId}
    (same : ∀ number ≤ scope, later.outer? number = scopes.outer? number) :
    later.chain scope = scopes.chain scope := by
  fun_induction chain scopes scope with
  | case1 scope outer around ih =>
      have lower := lt_of_outer? around
      rw [chain_of_outer?_eq_some (by rw [same scope (Nat.le_refl _), around]),
        ih fun number bound => same number (Nat.le_of_lt (Nat.lt_of_le_of_lt bound lower))]
  | case2 scope outermost =>
      exact chain_of_outer?_eq_none (by rw [same scope (Nat.le_refl _), outermost])

theorem le_of_mem_chain {scopes : Scopes} {scope number : ScopeId}
    (member : number ∈ scopes.chain scope) : number ≤ scope := by
  fun_induction chain scopes scope with
  | case1 scope outer around ih =>
      rcases List.mem_cons.1 member with rfl | further
      · exact Nat.le_refl number
      · exact Nat.le_of_lt (Nat.lt_of_le_of_lt (ih further) (lt_of_outer? around))
  | case2 scope outermost =>
      exact Nat.le_of_eq (List.mem_singleton.1 member)

/-- A chain begins with its scope and does not come back to it. -/
theorem exists_chain_eq_cons (scopes : Scopes) (scope : ScopeId) :
    ∃ outward, scopes.chain scope = scope :: outward ∧ ∀ number ∈ outward, number ≠ scope := by
  cases around : scopes.outer? scope with
  | none => exact ⟨[], chain_of_outer?_eq_none around, by simp⟩
  | some outer =>
      refine ⟨scopes.chain outer, chain_of_outer?_eq_some around, ?_⟩
      intro number member
      exact Nat.ne_of_lt (Nat.lt_of_le_of_lt (le_of_mem_chain member) (lt_of_outer? around))

/-- A look-up gives the first binding along the chain. -/
theorem lookup?_eq_findSome? (scopes : Scopes) (scope : ScopeId) (name : String) :
    scopes.lookup? scope name =
      (scopes.chain scope).findSome? fun number => (scopes.bindings number)[name]? := by
  fun_induction chain scopes scope with
  | case1 scope outer around ih =>
      rw [lookup?, List.findSome?_cons]
      cases (scopes.bindings scope)[name]? with
      | some value => rfl
      | none =>
          dsimp only
          split
          · next found =>
              rw [around] at found
              cases found
              exact ih
          · next found =>
              rw [around] at found
              cases found
  | case2 scope outermost =>
      rw [lookup?, List.findSome?_cons]
      cases (scopes.bindings scope)[name]? with
      | some value => rfl
      | none =>
          dsimp only
          split
          · next found =>
              rw [outermost] at found
              cases found
          · rfl

theorem lookup?_eq_none_iff {scopes : Scopes} {scope : ScopeId} {name : String} :
    scopes.lookup? scope name = none ↔
      ∀ number ∈ scopes.chain scope, (scopes.bindings number)[name]? = none := by
  rw [lookup?_eq_findSome?, List.findSome?_eq_none_iff]

/-- A scope binds a name itself if its own bindings have a value for it. -/
theorem isLocal_eq_isSome (scopes : Scopes) (scope : ScopeId) (name : String) :
    scopes.isLocal scope name = (scopes.bindings scope)[name]?.isSome :=
  Std.ExtTreeMap.contains_eq_isSome_getElem?

/-- The names that a scope binds itself are listed in ascending order. -/
theorem pairwise_names (scopes : Scopes) (scope : ScopeId) :
    (scopes.names scope).Pairwise (· < ·) := by
  refine List.Pairwise.imp ?_ (Std.ExtTreeMap.ordered_keys (t := scopes.bindings scope))
  intro first second before
  exact compareOfLessAndEq_eq_lt.1 before

theorem mem_names_iff {scopes : Scopes} {scope : ScopeId} {name : String} :
    name ∈ scopes.names scope ↔ (scopes.bindings scope)[name]?.isSome = true := by
  rw [names, Std.ExtTreeMap.mem_keys, Std.ExtTreeMap.mem_iff_isSome_getElem?]

theorem eq_of_getElem?_frames {scopes others : Scopes}
    (same : ∀ number : ScopeId, scopes.frames[number]? = others.frames[number]?) :
    scopes = others := by
  rcases scopes with ⟨frames, outer_lt⟩
  rcases others with ⟨otherFrames, otherOuter_lt⟩
  obtain rfl : frames = otherFrames := Array.ext_getElem? same
  rfl

theorem getElem?_frames_define (scope : ScopeId) (name : String) (value : Value)
    (scopes : Scopes) (other : ScopeId) :
    (scopes.define scope name value).frames[other]? =
      if scope = other then
        scopes.frames[other]?.map fun frame =>
          { frame with bindings := frame.bindings.insert name value }
      else scopes.frames[other]? :=
  Array.getElem?_modify

theorem define_of_count_le {scopes : Scopes} {scope : ScopeId} (unmade : scopes.count ≤ scope)
    (name : String) (value : Value) : scopes.define scope name value = scopes := by
  apply eq_of_getElem?_frames
  intro number
  rw [getElem?_frames_define]
  split
  · next isSame =>
    rw [← isSame, Array.getElem?_eq_none unmade]
    rfl
  · rfl

/-- Definitions of different names in one scope can be made in either order. -/
theorem define_comm (scope : ScopeId) {name otherName : String} (differs : name ≠ otherName)
    (value otherValue : Value) (scopes : Scopes) :
    (scopes.define scope name value).define scope otherName otherValue =
      (scopes.define scope otherName otherValue).define scope name value := by
  apply eq_of_getElem?_frames
  intro number
  simp only [getElem?_frames_define]
  split
  · rw [Option.map_map, Option.map_map]
    refine congrArg (Option.map · _) (funext fun frame => congrArg (Frame.mk · _) ?_)
    apply Std.ExtTreeMap.ext_getElem?
    intro read
    simp only [Std.ExtTreeMap.getElem?_insert, Std.LawfulEqCmp.compare_eq_iff_eq]
    by_cases isName : name = read
    · subst isName
      rw [if_neg differs.symm, if_pos rfl, if_pos rfl]
    · rw [if_neg isName, if_neg isName]
  · rfl

theorem getElem?_bindings_define {scope : ScopeId} (name : String) (value : Value)
    {scopes : Scopes} (known : scope < scopes.count) (other : ScopeId) (otherName : String) :
    ((scopes.define scope name value).bindings other)[otherName]? =
      if scope = other ∧ name = otherName then some value
      else (scopes.bindings other)[otherName]? := by
  rw [bindings_define name value known]
  by_cases same : other = scope
  · subst same
    rw [if_pos rfl, Std.ExtTreeMap.getElem?_insert]
    simp
  · rw [if_neg same, if_neg fun both => same both.1.symm]

/-- A definition is seen from its own scope at once, and nothing else changes there. -/
theorem lookup?_define {scope : ScopeId} (name : String) (value : Value) {scopes : Scopes}
    (known : scope < scopes.count) (otherName : String) :
    (scopes.define scope name value).lookup? scope otherName =
      if name = otherName then some value else scopes.lookup? scope otherName := by
  have sameChain : (scopes.define scope name value).chain scope = scopes.chain scope :=
    chain_congr fun number _ => outer?_define scope number name value scopes
  obtain ⟨outward, shape, others⟩ := exists_chain_eq_cons scopes scope
  have sameOutward :
      (outward.findSome? fun number =>
          ((scopes.define scope name value).bindings number)[otherName]?) =
        outward.findSome? fun number => (scopes.bindings number)[otherName]? := by
    rw [← List.head?_filterMap, ← List.head?_filterMap]
    refine congrArg List.head? (List.filterMap_congr fun number member => ?_)
    rw [bindings_define name value known, if_neg (others number member)]
  rw [lookup?_eq_findSome?, lookup?_eq_findSome?, sameChain, shape, List.findSome?_cons,
    List.findSome?_cons, getElem?_bindings_define name value known, sameOutward]
  by_cases same : name = otherName
  · rw [if_pos ⟨rfl, same⟩, if_pos same]
  · rw [if_neg fun both => same both.2, if_neg same]

/-- A definition in any scope leaves the look-ups of other names as they are. -/
theorem lookup?_define_of_ne (changed : ScopeId) {name otherName : String}
    (differs : name ≠ otherName) (value : Value) (scopes : Scopes) (scope : ScopeId) :
    (scopes.define changed name value).lookup? scope otherName =
      scopes.lookup? scope otherName := by
  by_cases known : changed < scopes.count
  · have sameChain : (scopes.define changed name value).chain scope = scopes.chain scope :=
      chain_congr fun number _ => outer?_define changed number name value scopes
    rw [lookup?_eq_findSome?, lookup?_eq_findSome?, sameChain]
    refine congrArg (List.findSome? · _) (funext fun number => ?_)
    rw [getElem?_bindings_define name value known, if_neg fun both => differs both.2]
  · rw [define_of_count_le (Nat.le_of_not_lt known)]

theorem exists_of_findSome?_ne {items : List ScopeId} {changed : ScopeId}
    {before after : ScopeId → Option Value}
    (same : ∀ number ∈ items, number ≠ changed → after number = before number)
    (differs : items.findSome? after ≠ items.findSome? before) :
    ∃ nearer further, items = nearer ++ changed :: further ∧
      ∀ number ∈ nearer, before number = none := by
  induction items with
  | nil => exact absurd rfl differs
  | cons first rest ih =>
      by_cases isChanged : first = changed
      · exact ⟨[], rest, by rw [isChanged, List.nil_append], by simp⟩
      · have sameFirst := same first List.mem_cons_self isChanged
        rw [List.findSome?_cons, List.findSome?_cons, sameFirst] at differs
        cases unbound : before first with
        | some value => simp [unbound] at differs
        | none =>
            rw [unbound] at differs
            obtain ⟨nearer, further, shape, hidden⟩ :=
              ih (fun number member => same number (List.mem_cons_of_mem _ member)) differs
            refine ⟨first :: nearer, further, by rw [shape, List.cons_append], ?_⟩
            intro number member
            rcases List.mem_cons.1 member with rfl | member
            · exact unbound
            · exact hidden number member

/-- A look-up that changes with the bindings of one scope goes outward through that
scope, and no scope before it binds the name. -/
theorem exists_chain_of_lookup?_ne {scopes later : Scopes} {changed scope : ScopeId}
    {name : String} (sameChain : later.chain scope = scopes.chain scope)
    (same : ∀ number ∈ scopes.chain scope, number ≠ changed →
      later.bindings number = scopes.bindings number)
    (differs : later.lookup? scope name ≠ scopes.lookup? scope name) :
    ∃ nearer further, scopes.chain scope = nearer ++ changed :: further ∧
      ∀ number ∈ nearer, scopes.isLocal number name = false := by
  rw [lookup?_eq_findSome?, lookup?_eq_findSome?, sameChain] at differs
  have sameValue : ∀ number ∈ scopes.chain scope, number ≠ changed →
      (later.bindings number)[name]? = (scopes.bindings number)[name]? := by
    intro number member other
    rw [same number member other]
  obtain ⟨nearer, further, shape, hidden⟩ := exists_of_findSome?_ne sameValue differs
  refine ⟨nearer, further, shape, ?_⟩
  intro number member
  rw [isLocal_eq_isSome, hidden number member, Option.isSome_none]

/-- A name that can be looked up still can where no scope on the chain loses it. -/
theorem lookup?_isSome_of_le {scopes later : Scopes} {scope : ScopeId} {name : String}
    (sameChain : later.chain scope = scopes.chain scope)
    (kept : ∀ number ∈ scopes.chain scope, (scopes.bindings number)[name]?.isSome = true →
      (later.bindings number)[name]?.isSome = true)
    (resolved : (scopes.lookup? scope name).isSome = true) :
    (later.lookup? scope name).isSome = true := by
  rw [lookup?_eq_findSome?, List.isSome_findSome?, List.any_eq_true] at resolved ⊢
  obtain ⟨number, member, bound⟩ := resolved
  rw [sameChain]
  exact ⟨number, member, kept number member bound⟩

end Scopes

end MiniLisp
