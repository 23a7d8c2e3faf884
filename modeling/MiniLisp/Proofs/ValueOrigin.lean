import MiniLisp.Proofs.EvaluationEffect
import MiniLisp.Proofs.ScopeHistory

/-!
# Where values come from

Evaluation makes numbers, truth values and null.  Texts, lists and procedures it only hands
on: one that is the result of an expression, or that gets bound by it, is a value that some
name resolved to before.

The invariant is about a stock of values that has all that evaluation makes.  If names
resolve to values of the stock only, evaluating gives and defines no others, and so they
still do afterwards, also after an error.  The stock of an expression is what can be seen
before it; the stock of lines that start from the built-in procedures has these and no other
procedure, text or list.
-/

namespace MiniLisp

/-- A value that evaluation makes. -/
inductive Value.IsScalar : Value → Prop where
  | number (value : Float) : IsScalar (.number value)
  | boolean (value : Bool) : IsScalar (.boolean value)
  | null : IsScalar .null

theorem Value.not_isScalar_list (items : List Value) : ¬ (Value.list items).IsScalar := by
  rintro ⟨⟩

/-- A value that there is without one put into a scope from outside. -/
inductive Value.IsPlain : Value → Prop where
  | scalar {value : Value} (isScalar : value.IsScalar) : IsPlain value
  | procedure (builtin : Builtin) : IsPlain (.procedure builtin)

theorem Builtin.isScalar_of_apply_eq_ok {builtin : Builtin} {arguments : List Value}
    {value : Value} (applied : builtin.apply arguments = .ok value) : value.IsScalar := by
  unfold Builtin.apply at applied
  split at applied
  · next left right =>
    cases onLeft : builtin.operand left with
    | error error => simp [onLeft, bind, Except.bind] at applied
    | ok first =>
        cases onRight : builtin.operand right with
        | error error => simp [onLeft, onRight, bind, Except.bind] at applied
        | ok second =>
            rw [onLeft, onRight] at applied
            cases applied
            exact .number _
  · cases applied

namespace Scopes

variable {scopes : Scopes} {scope other : ScopeId} {name otherName : String}
  {value found : Value}

def Visible (scopes : Scopes) (scope : ScopeId) (value : Value) : Prop :=
  ∃ name, scopes.lookup? scope name = some value

/-- A value that evaluation can give: it makes the value, or finds it. -/
def Available (scopes : Scopes) (scope : ScopeId) (value : Value) : Prop :=
  value.IsScalar ∨ scopes.Visible scope value

theorem visible_define (visible : (scopes.define scope name value).Visible scope found) :
    found = value ∨ scopes.Visible scope found := by
  obtain ⟨otherName, resolved⟩ := visible
  by_cases known : scope < scopes.count
  · rw [lookup?_define name value known] at resolved
    split at resolved
    · exact .inl (Option.some.inj resolved).symm
    · exact .inr ⟨otherName, resolved⟩
  · rw [define_of_count_le (Nat.le_of_not_lt known)] at resolved
    exact .inr ⟨otherName, resolved⟩

theorem bound_define
    (bound : ((scopes.define scope name value).bindings other)[otherName]? = some found) :
    (scopes.bindings other)[otherName]? = some found ∨
      other = scope ∧ (otherName, found) = (name, value) := by
  by_cases known : scope < scopes.count
  · rw [getElem?_bindings_define name value known] at bound
    split at bound
    · next same => exact .inr ⟨same.1.symm, by rw [same.2, Option.some.inj bound]⟩
    · exact .inl bound
  · rw [define_of_count_le (Nat.le_of_not_lt known)] at bound
    exact .inl bound

/-- What is bound after definitions was bound before them or is one of them. -/
theorem bound_replay {definitions : List (String × Value)}
    (bound : ((scopes.replay scope definitions).bindings other)[name]? = some found) :
    (scopes.bindings other)[name]? = some found ∨
      other = scope ∧ (name, found) ∈ definitions := by
  induction definitions generalizing scopes with
  | nil => exact .inl bound
  | cons entry definitions ih =>
      rcases ih bound with before | ⟨isOwn, member⟩
      · rcases bound_define before with before | ⟨isOwn, isEntry⟩
        · exact .inl before
        · exact .inr ⟨isOwn, List.mem_cons.2 (.inl isEntry)⟩
      · exact .inr ⟨isOwn, List.mem_cons_of_mem entry member⟩

theorem isSome_bindings_replay_of_mem {definitions : List (String × Value)}
    (known : scope < scopes.count) (member : (name, value) ∈ definitions) :
    ((scopes.replay scope definitions).bindings scope)[name]?.isSome = true := by
  induction definitions generalizing scopes with
  | nil => exact absurd member List.not_mem_nil
  | cons entry definitions ih =>
      have still : scope < (scopes.define scope entry.1 entry.2).count := by
        rw [count_define]
        exact known
      rcases List.mem_cons.1 member with isEntry | further
      · apply isSome_bindings_replay definitions still
        rw [getElem?_bindings_define _ _ known, ← isEntry, if_pos ⟨rfl, rfl⟩]
        rfl
      · exact ih still further

theorem mem_chain_self (scopes : Scopes) (scope : ScopeId) : scope ∈ scopes.chain scope := by
  obtain ⟨outward, shape, _⟩ := exists_chain_eq_cons scopes scope
  rw [shape]
  exact List.mem_cons_self

theorem isSome_lookup?_of_bound (bound : (scopes.bindings scope)[name]?.isSome = true) :
    (scopes.lookup? scope name).isSome = true := by
  rw [lookup?_eq_findSome?, List.isSome_findSome?, List.any_eq_true]
  exact ⟨scope, mem_chain_self scopes scope, bound⟩

theorem exists_bound_of_visible (visible : scopes.Visible scope value) :
    ∃ (number : ScopeId) (name : String), (scopes.bindings number)[name]? = some value := by
  obtain ⟨name, resolved⟩ := visible
  rw [lookup?_eq_findSome?] at resolved
  obtain ⟨number, _, bound⟩ := List.exists_of_findSome?_eq_some resolved
  exact ⟨number, name, bound⟩

end Scopes

/-- An outcome with an expected result, if any, that draws on a stock of values: it defines
values of the stock, and then names still resolve to such values only. -/
structure Outcome.DrawsOn {α : Type} (stock : Value → Prop) (scope : ScopeId)
    (expected : α → Prop) (outcome : Outcome α) : Prop where
  result : ∀ value, outcome.result = .ok value → expected value
  defined : ∀ entry ∈ Event.definitions outcome.events, stock entry.2
  visible : ∀ value, outcome.scopes.Visible scope value → stock value

namespace Evaluation

variable {α β : Type} {stock : Value → Prop} {scope : ScopeId} {expected : α → Prop}
  {further : β → Prop}

/-- An evaluation draws on a stock wherever names resolve to values of the stock. -/
def DrawsOn (stock : Value → Prop) (scope : ScopeId) (expected : α → Prop)
    (evaluation : Evaluation α) : Prop :=
  ∀ scopes : Scopes, (∀ value, scopes.Visible scope value → stock value) →
    (evaluation scopes).DrawsOn stock scope expected

theorem drawsOn_pure {value : α} (isExpected : expected value) :
    DrawsOn stock scope expected (pure value) := by
  intro scopes stocked
  refine ⟨?_, by simp, stocked⟩
  rintro other ⟨⟩
  exact isExpected

theorem drawsOn_ofExcept {result : Except EvalError α}
    (isExpected : ∀ value, result = .ok value → expected value) :
    DrawsOn stock scope expected (ofExcept result) := by
  intro scopes stocked
  exact ⟨isExpected, by simp [ofExcept], stocked⟩

theorem drawsOn_fail (error : EvalError) :
    DrawsOn stock scope expected (fail error : Evaluation α) := by
  apply drawsOn_ofExcept
  rintro value ⟨⟩

theorem drawsOn_tell {event : Event} (noDefinition : event.definition? = none) :
    DrawsOn stock scope (fun _ => True) (tell event) := by
  intro scopes stocked
  exact ⟨fun _ _ => trivial, by simp [tell, Event.definitions, noDefinition], stocked⟩

theorem drawsOn_define (name : String) {value : Value} (inStock : stock value) :
    DrawsOn stock scope (fun _ => True) (define scope name value) := by
  intro scopes stocked
  refine ⟨fun _ _ => trivial, ?_, ?_⟩
  · intro entry member
    rw [List.mem_singleton.1 (show entry ∈ [(name, value)] from member)]
    exact inStock
  · intro found visible
    rcases Scopes.visible_define visible with rfl | visible
    · exact inStock
    · exact stocked found visible

theorem drawsOn_lookup? (name : String) :
    DrawsOn stock scope (fun found => ∀ value, found = some value → stock value)
      (lookup? scope name) := by
  intro scopes stocked
  refine ⟨?_, by simp [lookup?], stocked⟩
  rintro found ⟨⟩ value resolved
  exact stocked value ⟨name, resolved⟩

/-- What is expected of the first result is there for the evaluation that follows, and the
first one leaves names resolving to the stock. -/
theorem DrawsOn.bind {first : Evaluation α} {continuation : α → Evaluation β}
    (before : DrawsOn stock scope expected first)
    (after : ∀ value, expected value → DrawsOn stock scope further (continuation value)) :
    DrawsOn stock scope further (first >>= continuation) := by
  intro scopes stocked
  have begun := before scopes stocked
  cases ended : first scopes with
  | mk result between events =>
      rw [ended] at begun
      cases result with
      | error error =>
          rw [bind_of_error ended]
          refine ⟨?_, begun.defined, begun.visible⟩
          rintro value ⟨⟩
      | ok value =>
          rw [bind_of_ok ended]
          have followed := after value (begun.result value rfl) between begun.visible
          refine ⟨followed.result, ?_, followed.visible⟩
          intro entry member
          rw [Event.definitions_append] at member
          rcases List.mem_append.1 member with earlier | later
          · exact begun.defined entry earlier
          · exact followed.defined entry later

theorem drawsOn_resolve (name : String) : DrawsOn stock scope stock (resolve scope name) := by
  refine (drawsOn_lookup? name).bind fun found fromStock => ?_
  cases found with
  | some value => exact drawsOn_pure (fromStock value rfl)
  | none => exact drawsOn_fail _

theorem drawsOn_call (scalars : ∀ value : Value, value.IsScalar → stock value) (name : String)
    (arguments : List Value) : DrawsOn stock scope stock (call scope name arguments) := by
  refine (drawsOn_lookup? name).bind fun found _ => ?_
  cases found with
  | none => exact drawsOn_fail _
  | some value =>
      cases value with
      | procedure builtin =>
          refine (drawsOn_tell rfl).bind fun _ _ => drawsOn_ofExcept fun value applied => ?_
          exact scalars value (Builtin.isScalar_of_apply_eq_ok applied)
      | _ => exact drawsOn_fail _

end Evaluation

open Evaluation

variable {stock : Value → Prop}

theorem drawsOn_evalAll {scope : ScopeId} {exprs : List Expr}
    (each : ∀ expr ∈ exprs, DrawsOn stock scope stock (eval scope expr)) :
    DrawsOn stock scope (fun values => ∀ value ∈ values, stock value) (evalAll scope exprs) := by
  induction exprs with
  | nil =>
      rw [evalAll]
      exact drawsOn_pure (by simp)
  | cons expr exprs ih =>
      rw [evalAll]
      refine (each expr List.mem_cons_self).bind fun value inStock => ?_
      have others := ih fun other member => each other (List.mem_cons_of_mem expr member)
      refine others.bind fun values allInStock => drawsOn_pure ?_
      exact List.forall_mem_cons.2 ⟨inStock, allInStock⟩

/-- Evaluation takes nothing from outside a stock that has all that it makes. -/
theorem drawsOn_eval (scalars : ∀ value : Value, value.IsScalar → stock value)
    (scope : ScopeId) (expr : Expr) : DrawsOn stock scope stock (eval scope expr) := by
  induction expr using Expr.form_induction with
  | number value =>
      rw [eval]
      exact drawsOn_pure (scalars _ (.number value))
  | boolean value =>
      rw [eval]
      exact drawsOn_pure (scalars _ (.boolean value))
  | null =>
      rw [eval]
      exact drawsOn_pure (scalars _ .null)
  | symbol name =>
      rw [eval]
      exact drawsOn_resolve name
  | refused items error refused =>
      rw [eval_refused scope refused]
      exact drawsOn_fail error
  | definition name body ih =>
      rw [eval_definition]
      refine ih.bind fun value inStock => (drawsOn_define name inStock).bind fun _ _ => ?_
      exact drawsOn_pure (scalars _ .null)
  | conditional condition consequent alternative ihCondition ihConsequent ihAlternative =>
      rw [eval_conditional]
      refine ihCondition.bind fun value _ => ?_
      cases value with
      | boolean holds =>
          cases holds with
          | true => exact ihConsequent
          | false => exact ihAlternative
      | _ => exact drawsOn_fail _
  | call head operands notDefine notIf ih =>
      rw [eval_call scope operands notDefine notIf]
      exact (drawsOn_evalAll ih).bind fun arguments _ => drawsOn_call scalars head arguments

theorem drawsOn_evalLine (scalars : ∀ value : Value, value.IsScalar → stock value)
    (scope : ScopeId) (line : String) : DrawsOn stock scope stock (evalLine scope line) := by
  refine (drawsOn_tell rfl).bind fun _ _ => ?_
  refine (drawsOn_ofExcept fun _ _ => trivial).bind fun expr (_ : True) => ?_
  refine (drawsOn_tell rfl).bind fun _ _ => ?_
  refine (drawsOn_eval scalars scope expr).bind fun value inStock => ?_
  exact (drawsOn_tell rfl).bind fun _ _ => drawsOn_pure inStock

/-- Where what evaluating an expression gives, defines and leaves bound comes from. -/
structure ValueOrigin (scope : ScopeId) (scopes : Scopes) (expr : Expr) : Prop where
  result : ∀ value, (eval scope expr scopes).result = .ok value → scopes.Available scope value
  /-- This is so for each definition, whatever becomes of it later. -/
  defined : ∀ entry ∈ Event.definitions (eval scope expr scopes).events,
    scopes.Available scope entry.2
  bound : ∀ (other : ScopeId) (name : String) (value : Value),
    ((eval scope expr scopes).scopes.bindings other)[name]? = some value →
      (scopes.bindings other)[name]? = some value ∨
        other = scope ∧ scopes.Available scope value
  /-- What could not be seen before is not seen afterwards. -/
  visible : ∀ value, (eval scope expr scopes).scopes.Visible scope value →
    scopes.Available scope value

theorem valueOrigin (scope : ScopeId) (scopes : Scopes) (expr : Expr) :
    ValueOrigin scope scopes expr := by
  have draws : DrawsOn (scopes.Available scope) scope (scopes.Available scope)
      (eval scope expr) := drawsOn_eval (fun _ isScalar => .inl isScalar) scope expr
  have drawn := draws scopes fun _ visible => .inr visible
  refine ⟨drawn.result, drawn.defined, ?_, drawn.visible⟩
  intro other name value bound
  rw [definesIn_eval scope expr scopes] at bound
  rcases Scopes.bound_replay bound with before | ⟨isOwn, member⟩
  · exact .inl before
  · exact .inr ⟨isOwn, drawn.defined _ member⟩

namespace Interpreter

/-- Scopes that there are at some moment while lines are evaluated: the first of the
definitions that the lines tell have been made in them. -/
def PassesThrough (interpreter : Interpreter) (lines : List String) (scopes : Scopes) : Prop :=
  ∃ made, made <+: Event.definitions (interpreter.events lines) ∧
    scopes = interpreter.scopes.replay interpreter.scope made

theorem events_append (interpreter : Interpreter) (seen later : List String) :
    interpreter.events (seen ++ later) =
      interpreter.events seen ++ (interpreter.after seen).events later := by
  induction seen generalizing interpreter with
  | nil => rfl
  | cons line seen ih =>
      have further := ih (interpreter.leftBy (interpreter.outcome line))
      exact (congrArg (_ ++ ·) further).trans (List.append_assoc _ _ _).symm

/-- Among these are the scopes that each line leaves. -/
theorem passesThrough_after (interpreter : Interpreter) {seen lines : List String}
    (first : seen <+: lines) :
    interpreter.PassesThrough lines (interpreter.after seen).scopes := by
  obtain ⟨later, rfl⟩ := first
  refine ⟨Event.definitions (interpreter.events seen), ?_, ?_⟩
  · rw [events_append, Event.definitions_append]
    exact List.prefix_append _ _
  · rw [after_eq_replay]

/-- Each line keeps names resolving to the stock for the next one. -/
theorem drawsOn_outcomes (scalars : ∀ value : Value, value.IsScalar → stock value)
    {interpreter : Interpreter}
    (stocked : ∀ value, interpreter.scopes.Visible interpreter.scope value → stock value)
    (lines : List String) :
    ∀ outcome ∈ interpreter.outcomes lines,
      Outcome.DrawsOn stock interpreter.scope stock outcome := by
  induction lines generalizing interpreter with
  | nil =>
      intro outcome member
      exact absurd member List.not_mem_nil
  | cons line lines ih =>
      have first : (interpreter.outcome line).DrawsOn stock interpreter.scope stock :=
        drawsOn_evalLine scalars interpreter.scope line interpreter.scopes stocked
      intro outcome member
      rcases List.mem_cons.1 member with rfl | further
      · exact first
      · exact @ih (interpreter.leftBy (interpreter.outcome line)) first.visible outcome further

theorem exists_outcome_of_mem_definitions {interpreter : Interpreter} {lines : List String}
    {entry : String × Value}
    (member : entry ∈ Event.definitions (interpreter.events lines)) :
    ∃ outcome ∈ interpreter.outcomes lines, entry ∈ Event.definitions outcome.events := by
  rw [Event.definitions, events, List.filterMap_flatMap] at member
  exact List.mem_flatMap.1 member

def initialDefinitions : List (String × Value) :=
  Builtin.all.map fun builtin => (builtin.symbol, .procedure builtin)

/-- All scopes of an interpreter come from its definitions, the first ones included. -/
theorem replay_start (made : List (String × Value)) :
    start.scopes.replay 0 made =
      (Scopes.empty.add none).replay 0 (initialDefinitions ++ made) := by
  have begun : start.scopes = (Scopes.empty.add none).replay 0 initialDefinitions :=
    Scopes.Action.effect_eq_replay Scopes.empty .root
  rw [begun, Scopes.replay_append]

theorem isPlain_of_bound {made : List (String × Value)}
    (plain : ∀ entry ∈ made, entry.2.IsPlain) {scope : ScopeId} {name : String} {value : Value}
    (bound : ((start.scopes.replay 0 made).bindings scope)[name]? = some value) :
    value.IsPlain := by
  rw [replay_start] at bound
  rcases Scopes.bound_replay bound with before | ⟨-, member⟩
  · rw [Scopes.bindings_add, Scopes.bindings_of_count_le (Nat.zero_le scope),
      Std.ExtTreeMap.getElem?_empty] at before
    cases before
  · rcases List.mem_append.1 member with initial | further
    · obtain ⟨builtin, -, isEntry⟩ := List.mem_map.1 initial
      rw [← (Prod.mk.inj isEntry).2]
      exact .procedure builtin
    · exact plain _ further

theorem isSome_lookup?_symbol (made : List (String × Value)) (builtin : Builtin) :
    ((start.scopes.replay 0 made).lookup? 0 builtin.symbol).isSome = true := by
  apply Scopes.isSome_lookup?_of_bound
  have member : (builtin.symbol, Value.procedure builtin) ∈ initialDefinitions :=
    List.mem_map.2 ⟨builtin, builtin.mem_all, rfl⟩
  rw [replay_start]
  exact Scopes.isSome_bindings_replay_of_mem Nat.one_pos (List.mem_append_left made member)

/-- What lines can get from an interpreter that starts with the built-in procedures. -/
structure PlainRun (lines : List String) : Prop where
  results : ∀ outcome ∈ start.outcomes lines, ∀ value : Value,
    outcome.result = .ok value → value.IsPlain
  after : ∀ seen, seen <+: lines → start.PassesThrough lines (start.after seen).scopes
  bindings : ∀ scopes, start.PassesThrough lines scopes →
    ∀ (scope : ScopeId) (name : String) (value : Value),
      (scopes.bindings scope)[name]? = some value → value.IsPlain
  resolves : ∀ scopes, start.PassesThrough lines scopes → ∀ name ∈ ["+", "-", "*", "/"],
    (scopes.lookup? start.scope name).isSome = true

theorem plainRun (lines : List String) : PlainRun lines := by
  have stocked : ∀ value : Value, start.scopes.Visible start.scope value → value.IsPlain := by
    intro value visible
    obtain ⟨number, name, bound⟩ := Scopes.exists_bound_of_visible visible
    have nothingMade : ∀ entry ∈ ([] : List (String × Value)), entry.2.IsPlain :=
      List.forall_mem_nil _
    exact isPlain_of_bound nothingMade bound
  have drawn := drawsOn_outcomes (fun _ isScalar => .scalar isScalar) stocked lines
  refine ⟨fun outcome member => (drawn outcome member).result,
    fun seen first => passesThrough_after start first, ?_, ?_⟩
  · rintro scopes ⟨made, first, rfl⟩ scope name value bound
    refine isPlain_of_bound (fun entry member => ?_) bound
    obtain ⟨outcome, isOutcome, told⟩ := exists_outcome_of_mem_definitions (first.subset member)
    exact (drawn outcome isOutcome).defined entry told
  · rintro scopes ⟨made, -, rfl⟩ name isSymbol
    obtain ⟨builtin, -, rfl⟩ : ∃ builtin ∈ Builtin.all, builtin.symbol = name :=
      List.mem_map.1 isSymbol
    exact isSome_lookup?_symbol made builtin

end Interpreter

/-- What an expression gives and binds is made by evaluation or was visible before.  So lines
get at no values but numbers, truth values, null and the built-in procedures, and the symbols
of these always resolve. -/
theorem origin_of_values :
    (∀ scope scopes expr, ValueOrigin scope scopes expr) ∧
      ∀ lines, Interpreter.PlainRun lines :=
  ⟨valueOrigin, Interpreter.plainRun⟩

/-- A list gets a second name, which stays when the next operand fails, and it was visible
before by the first one. -/
theorem origin_of_values_list :
    let items : Value := .list [.text "+", .null]
    let scopes := (Scopes.empty.add none).define 0 "xs" items
    let expr : Expr :=
      .list [.symbol "f", .list [.symbol "define", .symbol "ys", .symbol "xs"], .symbol "y"]
    (eval 0 expr scopes).result = .error (.undefined "y") ∧
      ((eval 0 expr scopes).scopes.bindings 0)["ys"]? = some items ∧ scopes.Visible 0 items ∧
      Interpreter.start.PassesThrough ["xs"] Interpreter.start.scopes := by
  intro items scopes expr
  have ended : (eval 0 expr scopes).result = .error (.undefined "y") := by
    subst expr scopes items
    cbv
  have told : Event.definitions (eval 0 expr scopes).events = [("ys", items)] := by
    subst expr scopes items
    cbv
  have bound : ((eval 0 expr scopes).scopes.bindings 0)["ys"]? = some items := by
    rw [definesIn_eval 0 expr scopes, told]
    exact Std.ExtTreeMap.getElem?_insert_self
  have member : ("ys", items) ∈ Event.definitions (eval 0 expr scopes).events := by
    rw [told]
    exact List.mem_singleton_self _
  have visible : scopes.Visible 0 items := by
    refine ((origin_of_values.1 0 scopes expr).defined _ member).resolve_left ?_
    exact Value.not_isScalar_list _
  exact ⟨ended, bound, visible, (origin_of_values.2 ["xs"]).after [] List.nil_prefix⟩

end MiniLisp
