import Inquiry.Correction
import Inquiry.Execution.Result
import Inquiry.Execution.World

/-!
# Attempts

A plan is executed by a call to the record store.  When the store does not
know a table of a generated query, the references to that table, and the empty
ones, are pointed at the table of the entity detected first, and the new query
is attempted after a pause.  Any other error ends execution, and so does one
that pointing references elsewhere does not help, or the last attempt that is
allowed.  Nothing is attempted once execution is cancelled or the deadline has
passed.
-/

set_option autoImplicit false

namespace Inquiry

/-- What execution needs besides a plan. -/
structure Executor (State : Type) where
  store : RecordStore State
  catalog : Catalog
  settings : RetrySettings
  /-- The entities detected in the question. -/
  detected : List Detected

/-- The outcome of execution: a result, or why there is none. -/
abbrev Execution (State : Type) := Except Stop ExecutionResult × World State

namespace Executor

variable {State : Type}

/-- No settings allow more attempts than this. -/
def mostAttempts : Nat := 3

/-- How many attempts are allowed: at least one. -/
def attemptsAllowed (settings : RetrySettings) : Nat :=
  min (max settings.maxAttempts 1) mostAttempts

/-! ## Another plan -/

/-- Whether a reference is to the table that a store complained about. -/
def names (table : List Char) (reference : Code.Reference) : Bool :=
  keyOf (tableMark ++ reference.identifier) = keyOf table ||
    keyOf reference.identifier = keyOf table

/-- Whether a reference is pointed elsewhere after a complaint about a table. -/
def isRejected (table : Option (List Char)) (reference : Code.Reference) : Bool :=
  reference.isEmpty || table.any (names · reference)

/-- A query with its rejected references pointed at the entity detected first, unless that
changes nothing. -/
def redirected? (catalog : Catalog) (detected : List Detected) (table : Option (List Char))
    (given : GeneratedQuery) : Option GeneratedQuery := do
  let target ← Correction.topTable? catalog detected
  let code := Correction.retarget catalog target (isRejected table) given.code.toList
  if code = given.code.toList then none
  else
    some {
      code := String.ofList code
      referencedEntities := Code.referencedEntities catalog code }

/-- The plan to attempt after an error, if another attempt may help. -/
def nextPlan? (executor : Executor State) (plan : Plan) (error : StoreError) : Option Plan :=
  let diagnosis := error.diagnosis
  match diagnosis.kind, plan with
  | .incorrectTableName, .query given =>
      (redirected? executor.catalog executor.detected diagnosis.table given).map .query
  | _, _ => none

/-! ## The loop -/

/-- Attempts at a plan, `left` more being allowed after this one.

`made` counts the attempts made so far and `states` are the states passed through. -/
def attempt (executor : Executor State) :
    (left made : Nat) → (states : List ExecutionState) → Plan → World State → Execution State
  | left, made, states, plan, world =>
      if world.isCancelled then (.error (.cancelled (made + 1)), world)
      else
        let (reply, called) := world.run executor.store plan.call
        match called.spend reply.took with
        | .error stop => (.error stop, called)
        | .ok world =>
            let finish (outcome : Except ExecutionFailure (List Row)) (last : ExecutionState) :
                Execution State :=
              (.ok ⟨outcome, plan.text, made + 1, states ++ [.executing, last]⟩, world)
            match reply.outcome with
            | .ok rows => finish (.ok rows) .succeeded
            | .error error =>
                match left, executor.nextPlan? plan error with
                | left + 1, some next =>
                    match world.spend executor.settings.backoff with
                    | .error stop => (.error stop, world)
                    | .ok world =>
                        executor.attempt left (made + 1) (states ++ [.executing, .retrying]) next
                          world
                | _, _ => finish (.error error.failure) .failed

/-- The execution of a plan. -/
def execute (executor : Executor State) (plan : Plan) (world : World State) : Execution State :=
  executor.attempt (attemptsAllowed executor.settings - 1) 0 [.pending] plan world

end Executor

end Inquiry
