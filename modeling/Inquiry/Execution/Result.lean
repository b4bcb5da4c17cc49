import Inquiry.Execution.Diagnosis

/-!
# Results of execution

Executing a plan takes one or more attempts and ends with rows or with a
failure.  The result tells how it went: the text that was executed last, how
many attempts were made, and the states that execution passed through.
-/

set_option autoImplicit false

namespace Inquiry

/-- A state of execution. -/
inductive ExecutionState where
  | pending
  | executing
  | retrying
  | succeeded
  | failed
deriving DecidableEq

/-- The name of a state. -/
def ExecutionState.name : ExecutionState → String
  | .pending => "Pending"
  | .executing => "Executing"
  | .retrying => "Retrying"
  | .succeeded => "Succeeded"
  | .failed => "Failed"

/-- A failure in execution, worded for people. -/
structure ExecutionFailure where
  kind : FailureKind
  message : String
deriving DecidableEq

/-- How the execution of a plan went. -/
structure ExecutionResult where
  outcome : Except ExecutionFailure (List Row)
  /-- The text of the plan that was executed last. -/
  queryExecuted : String
  attempts : Nat
  /-- The states passed through, in order. -/
  states : List ExecutionState

namespace ExecutionResult

/-- Whether execution ended with rows. -/
def succeeded (result : ExecutionResult) : Bool :=
  match result.outcome with
  | .ok _ => true
  | .error _ => false

/-- The rows of a result; a failure has none. -/
def rows (result : ExecutionResult) : List Row :=
  match result.outcome with
  | .ok rows => rows
  | .error _ => []

/-- How many rows a result has. -/
def rowCount (result : ExecutionResult) : Nat := result.rows.length

/-- The failure of a result, if it is one. -/
def failure? (result : ExecutionResult) : Option ExecutionFailure :=
  match result.outcome with
  | .ok _ => none
  | .error failure => some failure

end ExecutionResult

/-- The wording for a table that cannot be resolved. -/
def unresolvedTable (table : Option (List Char)) : String :=
  let shown := match table.map Text.trim with
    | some name =>
        if name.isEmpty || name = tableMark then "(empty table name)"
        else "'" ++ String.ofList name ++ "'"
    | none => "(empty table name)"
  "Could not resolve table " ++ shown ++
    ". Please name the document type explicitly, e.g. \"show all Sales Orders\"."

/-- The wording for another error of the store. -/
def plainFailure (error : StoreError) : String :=
  if Text.trimmed error.message = "" then "Record store failed with code " ++ error.code
  else error.message

/-- The failure that an error of the store is. -/
def StoreError.failure (error : StoreError) : ExecutionFailure :=
  let diagnosis := error.diagnosis
  match diagnosis.kind with
  | .incorrectTableName => ⟨.incorrectTableName, unresolvedTable diagnosis.table⟩
  | .other => ⟨.other, plainFailure error⟩

end Inquiry
