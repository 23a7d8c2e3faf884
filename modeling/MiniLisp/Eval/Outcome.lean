import MiniLisp.Eval.Error
import MiniLisp.Event
import MiniLisp.Scope

/-!
# Evaluations

An evaluation starts from the scopes there are.  It ends in a result or an
error, with the scopes as they then are and the events on the way.  Failing
takes nothing back: the definitions made before an error stay, and so do their
events.

Evaluations that follow one another make one evaluation, and an error skips all
that would follow.
-/

universe u

namespace MiniLisp

structure Outcome (α : Type u) where
  result : Except EvalError α
  scopes : Scopes
  events : List Event

/-- An evaluation: what comes of the scopes there are. -/
def Evaluation (α : Type) : Type :=
  Scopes → Outcome α

namespace Evaluation

variable {α β : Type}

/-- Let one evaluation follow another that has come to a result. -/
def andThen (first : Evaluation α) (continuation : α → Evaluation β) : Evaluation β :=
  fun scopes =>
    let before := first scopes
    match before.result with
    | .error error => { result := .error error, scopes := before.scopes, events := before.events }
    | .ok value =>
        let after := continuation value before.scopes
        { after with events := before.events ++ after.events }

instance : Monad Evaluation where
  pure value := fun scopes => { result := .ok value, scopes, events := [] }
  bind := andThen

/-- Take over what is a result or an error already. -/
def ofExcept (result : Except EvalError α) : Evaluation α :=
  fun scopes => { result, scopes, events := [] }

def fail (error : EvalError) : Evaluation α :=
  ofExcept (.error error)

def tell (event : Event) : Evaluation Unit :=
  fun scopes => { result := .ok (), scopes, events := [event] }

def newScope (outer : Option ScopeId) : Evaluation ScopeId :=
  fun scopes => { result := .ok scopes.count, scopes := scopes.add outer, events := [] }

/-- Bind a name to a value in a scope, and tell it. -/
def define (scope : ScopeId) (name : String) (value : Value) : Evaluation Unit :=
  fun scopes =>
    { result := .ok ()
      scopes := scopes.define scope name value
      events := [.defined name value] }

def lookup? (scope : ScopeId) (name : String) : Evaluation (Option Value) :=
  fun scopes => { result := .ok (scopes.lookup? scope name), scopes, events := [] }

def defineAll (scope : ScopeId) : List Builtin → Evaluation Unit
  | [] => pure ()
  | builtin :: builtins => do
    define scope builtin.symbol (.procedure builtin)
    defineAll scope builtins

/-- Make a scope inside none, where the built-in procedures have their symbols. -/
def newRoot : Evaluation ScopeId := do
  let scope ← newScope none
  defineAll scope Builtin.all
  return scope

@[simp] theorem pure_apply (value : α) (scopes : Scopes) :
    (pure value : Evaluation α) scopes = { result := .ok value, scopes, events := [] } :=
  rfl

/-- After a result, the second evaluation starts from the scopes that the first
one left, and its events follow those of the first. -/
theorem bind_of_ok {first : Evaluation α} {continuation : α → Evaluation β}
    {scopes between : Scopes} {value : α} {events : List Event}
    (ended : first scopes = { result := .ok value, scopes := between, events }) :
    (first >>= continuation) scopes =
      { continuation value between with
        events := events ++ (continuation value between).events } := by
  show andThen first continuation scopes = _
  simp [andThen, ended]

/-- After an error, nothing follows. -/
theorem bind_of_error {first : Evaluation α} {continuation : α → Evaluation β}
    {scopes between : Scopes} {error : EvalError} {events : List Event}
    (ended : first scopes = { result := .error error, scopes := between, events }) :
    (first >>= continuation) scopes =
      { result := .error error, scopes := between, events } := by
  show andThen first continuation scopes = _
  simp [andThen, ended]

private theorem andThen_pure (evaluation : Evaluation α) :
    andThen evaluation (fun value => pure (id value)) = evaluation := by
  funext scopes
  unfold andThen
  rcases evaluation scopes with ⟨result, after, events⟩
  cases result <;> simp

private theorem pure_andThen (value : α) (continuation : α → Evaluation β) :
    andThen (pure value) continuation = continuation value := by
  funext scopes
  simp [andThen]

private theorem andThen_assoc {γ : Type} (evaluation : Evaluation α)
    (continuation : α → Evaluation β) (last : β → Evaluation γ) :
    andThen (andThen evaluation continuation) last =
      andThen evaluation fun value => andThen (continuation value) last := by
  funext scopes
  unfold andThen
  rcases evaluation scopes with ⟨result, between, events⟩
  cases result with
  | error error => rfl
  | ok value =>
    dsimp only
    rcases continuation value between with ⟨result, after, later⟩
    cases result <;> simp

instance : LawfulMonad Evaluation :=
  LawfulMonad.mk' Evaluation andThen_pure pure_andThen andThen_assoc

end Evaluation

end MiniLisp
