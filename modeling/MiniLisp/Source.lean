/-!
# Sources of items

A source hands out items one at a time until it runs dry, and a dry source stays
dry however often it is asked again.  Every source here is finite: it carries a
size that falls with each item, so reading one to its end is a well-founded
recursion and the items still to come form a list.
-/

universe u v

namespace MiniLisp

/-- A finite supply of items.  `next` gives the next item, or nothing once the
supply has run dry, and what the source is then; a dry source may still change. -/
class Source (σ : Type u) (α : outParam (Type v)) where
  next : σ → Option α × σ
  size : σ → Nat
  size_lt_of_next : ∀ {source rest : σ} {item : α},
    next source = (some item, rest) → size rest < size source
  size_le_of_next : ∀ {source rest : σ}, next source = (none, rest) → size rest ≤ size source
  /-- A source that has run dry has no item later. -/
  next_of_dry : ∀ {source rest : σ}, next source = (none, rest) → (next rest).1 = none

namespace Source

variable {σ : Type u} {α : Type v} [Source σ α]

def toList (source : σ) : List α :=
  match _ : next source with
  | (none, _) => []
  | (some item, rest) => item :: toList rest
termination_by size source
decreasing_by exact size_lt_of_next ‹_›

theorem toList_eq_nil {source rest : σ} (dry : next source = (none, rest)) :
    toList source = [] := by
  rw [toList]
  split
  · rfl
  · simp_all

theorem toList_rest_eq_nil {source rest : σ} (dry : next source = (none, rest)) :
    toList rest = [] :=
  toList_eq_nil (Prod.ext (next_of_dry dry) rfl : next rest = (none, (next rest).2))

theorem toList_eq_cons {source : σ} {item : α} {rest : σ}
    (given : next source = (some item, rest)) :
    toList source = item :: toList rest := by
  rw [toList]
  split <;> simp_all

end Source

instance {α : Type u} : Source (List α) α where
  next
    | [] => (none, [])
    | item :: rest => (some item, rest)
  size := List.length
  size_lt_of_next := by
    intro source rest item given
    cases source <;> simp_all
  size_le_of_next := by
    intro source rest dry
    cases source <;> simp_all
  next_of_dry := by
    intro source rest dry
    cases source <;> simp_all

@[simp] theorem Source.toList_list {α : Type u} (items : List α) :
    Source.toList items = items := by
  induction items with
  | nil => exact Source.toList_eq_nil rfl
  | cons item rest ih => rw [Source.toList_eq_cons rfl, ih]

end MiniLisp
