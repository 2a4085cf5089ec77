/-
Operations on the fields of an engine that stays.

* `Operation`, `Operation.perform`: the operations, each from an engine to the
  next one;
* `Operation.call`: the same step by step, on an engine that keeps what is done
  to it, also by a call that fails afterwards;
* `Operation.on_call`: a call does what the operation says, and one that fails
  leaves the engine as it was;
* `Operation.callAll`: calls one after another.
-/
import Mathlib.Tactic.Lemma
import RecordRules.Engine.Basic

namespace RecordRules

/-- An operation on the fields of an engine. -/
inductive Operation where
  | configure (configuration : Configuration)
  | setLabels (labels : List (String × String))
  | setSanitizations (placement : Placement) (texts : List (String × String))
  | setValidations (texts : List (String × String))
  /-- For the given fields, or for all. -/
  | clearSanitizations (ids : Option (List String))
  | clearValidations (ids : Option (List String))
  deriving DecidableEq

namespace Operation

/-- The engine after an operation. -/
def perform (engine : Engine) : Operation → Except RuleTextError Engine
  | configure configuration => engine.configure configuration
  | setLabels labels => .ok (engine.setLabels labels)
  | setSanitizations placement texts => engine.setSanitizations placement texts
  | setValidations texts => engine.setValidations texts
  | clearSanitizations ids => .ok (engine.clearSanitizations ids)
  | clearValidations ids => .ok (engine.clearValidations ids)

/-- The engine with fields changed by what is read from entries; all entries are
read before the first field changes. -/
def changeByEntries {α β : Type} (engine : Engine) (entries : List (String × α))
    (read : α → Except RuleTextError β) (change : β → FieldRules → FieldRules) : Except RuleTextError Engine := do
  let added ← entries.mapM fun (id, a) => (read a).map fun b => (id, b)
  .ok (added.foldl (fun engine (id, b) => engine.changeField id (change b)) engine)

/-! ### Calls -/

/-- What a call on an engine does: it changes the engine and may fail. Changes
that were made before it fails stay. -/
abbrev Call := ExceptT RuleTextError (StateM Engine)

/-- Changes a field for each of some entries, in order. -/
def changeEach {α : Type} (entries : List (String × α)) (change : α → FieldRules → FieldRules) : Call Unit :=
  entries.forM fun (id, a) => modify (·.changeField id (change a))

/-- Reads each of some entries, in order. -/
def readEach {α β : Type} (entries : List (String × α)) (read : α → Except RuleTextError β) :
    Call (List (String × β)) :=
  entries.mapM fun (id, a) => do
    let b ← ofExcept (read a)
    return (id, b)

/-- An operation as a call, step by step. -/
def call : Operation → Call Unit
  | configure configuration => do
    let additions ← readEach configuration.fields Engine.Addition.ofSpec
    changeEach additions Engine.Addition.addTo
  | setLabels labels => changeEach labels fun label field => field.withLabel label
  | setSanitizations placement texts => do
    let added ← readEach texts fun text => Rule.ofOptional .sanitization (some text)
    changeEach added fun rules field => field.addSanitizations placement rules
  | setValidations texts => do
    let added ← readEach texts fun text => Rule.ofOptional .validation (some text)
    changeEach added fun rules field => field.addValidations .after rules
  | clearSanitizations ids => modify (·.clearSanitizations ids)
  | clearValidations ids => modify (·.clearValidations ids)

/-- The answer of a call, and the engine after it. -/
def Call.on {α : Type} (call : Call α) (engine : Engine) : Except RuleTextError α × Engine :=
  call.run.run engine

/-- Calls one after another, also after one that fails. The answer is the list of
the operations that succeed. -/
def callAll : List Operation → StateM Engine (List Operation)
  | [] => return []
  | operation :: rest => do
    let answer ← operation.call.run
    let succeeded ← callAll rest
    return if answer.isOk then operation :: succeeded else succeeded

/-! ### What a call does -/

lemma Call.on_bind {α β : Type} (call : Call α) (next : α → Call β) (engine : Engine) :
    (call >>= next).on engine =
      match call.on engine with
      | (.ok a, after) => (next a).on after
      | (.error e, after) => (.error e, after) := by
  have step : (call >>= next).on engine =
      (ExceptT.bindCont next (call.on engine).1).run (call.on engine).2 := rfl
  rw [step]
  obtain ⟨answer, after⟩ := call.on engine
  cases answer <;> rfl

lemma on_changeEach {α : Type} (entries : List (String × α)) (change : α → FieldRules → FieldRules)
    (engine : Engine) :
    (changeEach entries change).on engine =
      (.ok (), entries.foldl (fun engine (id, a) => engine.changeField id (change a)) engine) := by
  induction entries generalizing engine with
  | nil => rfl
  | cons entry rest ih => exact ih _

/-- Reading does not change the engine, also where it fails. -/
lemma on_readEach {α β : Type} (entries : List (String × α)) (read : α → Except RuleTextError β)
    (engine : Engine) :
    (readEach entries read).on engine =
      (entries.mapM fun (id, a) => (read a).map fun b => (id, b), engine) := by
  rw [readEach]
  induction entries with
  | nil => rfl
  | cons entry rest ih =>
    obtain ⟨id, a⟩ := entry
    have first : (do let b ← ofExcept (read a); return (id, b) : Call (String × β)).on engine =
        ((read a).map fun b => (id, b), engine) := by
      rw [Call.on_bind]
      cases read a <;> rfl
    rw [List.mapM_cons, List.mapM_cons, Call.on_bind, first]
    dsimp only
    cases (read a).map fun b => (id, b) with
    | error e => rfl
    | ok entry =>
      dsimp only
      rw [Call.on_bind, ih]
      cases rest.mapM fun (id, a) => (read a).map fun b => (id, b) <;> rfl

/-- A call that reads all its entries before it changes the first field. -/
lemma on_readEach_changeEach {α β : Type} (entries : List (String × α)) (read : α → Except RuleTextError β)
    (change : β → FieldRules → FieldRules) (engine : Engine) :
    (readEach entries read >>= fun added => changeEach added change).on engine =
      match changeByEntries engine entries read change with
      | .ok next => (.ok (), next)
      | .error e => (.error e, engine) := by
  rw [Call.on_bind, on_readEach, changeByEntries]
  cases entries.mapM fun (id, a) => (read a).map fun b => (id, b) with
  | ok added => exact on_changeEach added change engine
  | error e => rfl

/-- A call does what the operation says, and one that fails leaves the engine as
it was. -/
theorem on_call (operation : Operation) (engine : Engine) :
    operation.call.on engine =
      match operation.perform engine with
      | .ok next => (.ok (), next)
      | .error e => (.error e, engine) := by
  cases operation with
  | configure configuration => exact on_readEach_changeEach configuration.fields _ _ engine
  | setLabels labels => exact on_changeEach labels (fun label field => field.withLabel label) engine
  | setSanitizations placement texts => exact on_readEach_changeEach texts _ _ engine
  | setValidations texts => exact on_readEach_changeEach texts _ _ engine
  | clearSanitizations ids => rfl
  | clearValidations ids => rfl

/-- Calls one after another: the first one, and those after it. -/
lemma run_callAll_cons (operation : Operation) (rest : List Operation) (engine : Engine) :
    (callAll (operation :: rest)).run engine =
      match operation.perform engine with
      | .ok next => ((callAll rest).run next).map (operation :: ·) id
      | .error _ => (callAll rest).run engine := by
  have step : (callAll (operation :: rest)).run engine =
      ((callAll rest).run (operation.call.on engine).2).map
        (fun succeeded => if (operation.call.on engine).1.isOk then operation :: succeeded else succeeded) id := rfl
  rw [step, on_call]
  cases operation.perform engine <;> rfl

end Operation

end RecordRules
