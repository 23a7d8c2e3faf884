import Mathlib.Logic.Function.Defs
import MiniLisp.Proofs.ScopeChain

/-!
# Renamed scopes

Names can be renamed by any injective function: what a name was bound to, its new name then
is, and the scopes lie in each other as before.  Looking a new name up gives what looking the
old one up gave, and a definition can be made before the renaming or, with the new name, after
it.
-/

namespace MiniLisp

def Bindings.rename (newName : String → String) (bindings : Bindings) : Bindings :=
  Std.ExtTreeMap.ofList (bindings.toList.map fun entry => (newName entry.1, entry.2))

namespace Bindings

variable {newName : String → String}

theorem getElem?_rename_eq_none {bindings : Bindings} {other : String}
    (unbound : ∀ name, newName name = other → bindings[name]? = none) :
    (bindings.rename newName)[other]? = none := by
  apply Std.ExtTreeMap.getElem?_ofList_of_contains_eq_false
  rw [Bool.eq_false_iff]
  intro present
  rw [List.contains_iff_mem, List.map_map, List.mem_map] at present
  obtain ⟨⟨name, value⟩, isEntry, isOther⟩ := present
  rw [Std.ExtTreeMap.mem_toList_iff_getElem?_eq_some, unbound name isOther] at isEntry
  cases isEntry

/-- Each new name is bound to what the old name was bound to. -/
theorem getElem?_rename (injective : Function.Injective newName) (bindings : Bindings)
    (name : String) : (bindings.rename newName)[newName name]? = bindings[name]? := by
  cases found : bindings[name]? with
  | none =>
      apply getElem?_rename_eq_none
      intro other same
      rw [injective same, found]
  | some value =>
      apply Std.ExtTreeMap.getElem?_ofList_of_mem Std.ReflCmp.compare_self
      · rw [List.pairwise_map]
        refine Std.ExtTreeMap.distinct_keys_toList.imp ?_
        intro first second distinct same
        rw [Std.LawfulEqCmp.compare_eq_iff_eq] at distinct same
        exact distinct (injective same)
      · have isEntry := Std.ExtTreeMap.mem_toList_iff_getElem?_eq_some.2 found
        exact List.mem_map.2 ⟨(name, value), isEntry, rfl⟩

theorem getElem?_rename_of_unused (bindings : Bindings) {other : String}
    (unused : ¬ ∃ name, newName name = other) : (bindings.rename newName)[other]? = none := by
  apply getElem?_rename_eq_none
  intro name same
  exact absurd ⟨name, same⟩ unused

theorem rename_insert (injective : Function.Injective newName) (bindings : Bindings)
    (name : String) (value : Value) :
    Bindings.rename newName (bindings.insert name value) =
      (bindings.rename newName).insert (newName name) value := by
  apply Std.ExtTreeMap.ext_getElem?
  intro read
  rw [Std.ExtTreeMap.getElem?_insert]
  by_cases used : ∃ old, newName old = read
  · obtain ⟨old, rfl⟩ := used
    rw [getElem?_rename injective, getElem?_rename injective, Std.ExtTreeMap.getElem?_insert]
    simp only [Std.LawfulEqCmp.compare_eq_iff_eq, injective.eq_iff]
  · rw [getElem?_rename_of_unused _ used, getElem?_rename_of_unused _ used, if_neg]
    rw [Std.LawfulEqCmp.compare_eq_iff_eq]
    exact fun same => used ⟨name, same⟩

end Bindings

def Frame.rename (newName : String → String) (frame : Frame) : Frame :=
  { frame with bindings := frame.bindings.rename newName }

namespace Scopes

/-- Scopes with all names that they bind renamed. -/
def rename (newName : String → String) (scopes : Scopes) : Scopes where
  frames := scopes.frames.map (Frame.rename newName)
  outer_lt := by
    intro scope frame outer found around
    rw [Array.getElem?_map, Option.map_eq_some_iff] at found
    obtain ⟨before, found, rfl⟩ := found
    exact scopes.outer_lt found around

variable {newName : String → String}

theorem bindings_rename (scopes : Scopes) (scope : ScopeId) :
    (scopes.rename newName).bindings scope = (scopes.bindings scope).rename newName := by
  rw [bindings, bindings, rename, Array.getElem?_map]
  cases scopes.frames[scope]? with
  | some frame => rfl
  | none => rfl

theorem outer?_rename (scopes : Scopes) (scope : ScopeId) :
    (scopes.rename newName).outer? scope = scopes.outer? scope := by
  rw [outer?, outer?, rename, Array.getElem?_map]
  cases scopes.frames[scope]? <;> rfl

/-- A new name resolves, from any scope, to what the old name resolved to. -/
theorem lookup?_rename (injective : Function.Injective newName) (scopes : Scopes)
    (scope : ScopeId) (name : String) :
    (scopes.rename newName).lookup? scope (newName name) = scopes.lookup? scope name := by
  have sameChain : (scopes.rename newName).chain scope = scopes.chain scope :=
    chain_congr fun number _ => outer?_rename scopes number
  rw [lookup?_eq_findSome?, lookup?_eq_findSome?, sameChain]
  refine congrArg (List.findSome? · _) (funext fun number => ?_)
  rw [bindings_rename, Bindings.getElem?_rename injective]

theorem rename_define (injective : Function.Injective newName) (scope : ScopeId)
    (name : String) (value : Value) (scopes : Scopes) :
    (scopes.define scope name value).rename newName =
      (scopes.rename newName).define scope (newName name) value := by
  apply eq_of_getElem?_frames
  intro number
  rw [getElem?_frames_define, rename, rename, Array.getElem?_map, Array.getElem?_map,
    getElem?_frames_define]
  split
  · rw [Option.map_map, Option.map_map]
    refine congrArg (Option.map · _) (funext fun frame => congrArg (Frame.mk · frame.outer) ?_)
    exact Bindings.rename_insert injective frame.bindings name value
  · rfl

end Scopes

end MiniLisp
