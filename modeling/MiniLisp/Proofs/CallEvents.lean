import MiniLisp.Proofs.EvaluationDeeds
import MiniLisp.Proofs.LineStages

/-!
# Calls among the events of a line

A call is told before its arguments are looked at, so its event tells which call it was also
when it fails.  Nothing is told after a failed call: evaluation passes its error on through
all that surrounds it, up to the end of the line.  So the call at fault, if there is one, is
the last event, all calls told before it have succeeded, and an error that only procedures
raise has its call there.

An outcome is of one of two kinds for this: no call in it fails, or the last one does and
gives it its error.  Evaluations that follow one another keep to these kinds.

What is told at the level for tracing is no more and no less than what the evaluation of the
expression does, definition by definition and call by call.
-/

namespace MiniLisp

/-- The errors that a procedure finds in its arguments. -/
inductive Builtin.Raises (builtin : Builtin) : EvalError → Prop where
  | count (found : Nat) : Raises builtin (.wrongCount builtin.symbol 2 found)
  | kind (found : Kind) : Raises builtin (.argumentNotNumber builtin found)

theorem Builtin.Raises.form_eq {builtin : Builtin} {form : String} {expected found : Nat}
    (raised : builtin.Raises (.wrongCount form expected found)) : form = builtin.symbol := by
  cases raised
  rfl

theorem Builtin.raises_of_apply_eq_error {builtin : Builtin} {arguments : List Value}
    {error : EvalError} (failed : builtin.apply arguments = .error error) :
    builtin.Raises error := by
  cases Builtin.apply_eq_error_iff.1 failed with
  | count count => exact .count _
  | left notNumber => exact .kind _
  | right notNumber => exact .kind _

/-- A call that is told comes to a value.  Other events hold no call. -/
def Event.Succeeds : Event → Prop
  | .applied builtin arguments => ∃ value, builtin.apply arguments = .ok value
  | _ => True

/-- The two ways in which calls can go in an outcome. -/
inductive Outcome.Calls {α : Type} (outcome : Outcome α) : Prop where
  | succeeded (each : ∀ event ∈ outcome.events, event.Succeeds)
      (noFault : ∀ (error : EvalError) (builtin : Builtin),
        outcome.result = .error error → ¬ builtin.Raises error)
  | failed (before : List Event) (builtin : Builtin) (arguments : List Value) (error : EvalError)
      (told : outcome.events = before ++ [.applied builtin arguments])
      (earlier : ∀ event ∈ before, event.Succeeds)
      (failure : builtin.apply arguments = .error error)
      (result : outcome.result = .error error)

namespace Evaluation

variable {α β : Type}

/-- Wherever an evaluation starts from, no call in it but the last fails. -/
def Traced (evaluation : Evaluation α) : Prop :=
  ∀ scopes, (evaluation scopes).Calls

/-- A failed call ends the first evaluation with an error, so nothing follows it. -/
theorem Traced.bind {first : Evaluation α} {continuation : α → Evaluation β}
    (before : Traced first) (after : ∀ value, Traced (continuation value)) :
    Traced (first >>= continuation) := by
  intro scopes
  have begun := before scopes
  cases ended : first scopes with
  | mk result between events =>
      rw [ended] at begun
      cases result with
      | error error =>
          rw [bind_of_error ended]
          cases begun with
          | succeeded each noFault =>
              refine .succeeded each ?_
              rintro other builtin ⟨⟩
              exact noFault error builtin rfl
          | failed earlier builtin arguments fault told each failure isFault =>
              obtain rfl : error = fault := Except.error.inj isFault
              exact .failed earlier builtin arguments error told each failure rfl
      | ok value =>
          rw [bind_of_ok ended]
          cases begun with
          | failed earlier builtin arguments fault told each failure isFault => cases isFault
          | succeeded each _ =>
              cases after value between with
              | succeeded later noFault =>
                  exact .succeeded (List.forall_mem_append.2 ⟨each, later⟩) noFault
              | failed earlier builtin arguments fault told later failure isFault =>
                  refine .failed (events ++ earlier) builtin arguments fault ?_
                    (List.forall_mem_append.2 ⟨each, later⟩) failure isFault
                  rw [told, List.append_assoc]

end Evaluation

open Evaluation

namespace Event

end Event

theorem Builtin.Raises.unique {builtin other : Builtin} {error : EvalError}
    (raised : builtin.Raises error) (otherRaised : other.Raises error) : builtin = other := by
  cases raised with
  | count found => exact Builtin.symbol_injective otherRaised.form_eq
  | kind found =>
      cases otherRaised
      rfl

namespace Outcome

variable {α : Type} {outcome : Outcome α}

end Outcome

/-- The call at fault is told last, and the operand after it is not evaluated. -/
example :
    Event.log .trace (Interpreter.start.outcome "(* (- true null) (define x null))").events =
      ["DEBUG tokenized tokens=[\"(\", \"*\", \"(\", \"-\", \"true\", \"null\", \")\", \"(\", " ++
          "\"define\", \"x\", \"null\", \")\", \")\"]",
        "DEBUG parsed expr=(* (- true null) (define x null))",
        "TRACE apply procedure=- args=[Boolean(true), Null]"] := by
  decide +kernel

end MiniLisp
