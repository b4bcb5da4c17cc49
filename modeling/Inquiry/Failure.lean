import Inquiry.Check.Fault
import Inquiry.Correction
import Inquiry.Execution.Result
import Inquiry.Plan.Fault
import Inquiry.Store.Records

/-!
# Failures

Everything that can keep a question from being answered, from a catalog that
cannot be read to a deadline that passed.  A failure has a kind, by which
programs tell failures apart, and a message for people.
-/

set_option autoImplicit false

namespace Inquiry

/-- Why a question is not answered. -/
inductive Failure where
  /-- The catalog is not usable. -/
  | catalog (fault : CatalogFault)
  /-- The settings are not usable. -/
  | settings (fault : SettingsFault)
  /-- The question is blank. -/
  | blankQuestion
  /-- The question names no entity. -/
  | nothingDetected (question : String)
  /-- A model gave no answer. -/
  | model (fault : ModelFault)
  /-- An answer is no plan. -/
  | planning (fault : PlanningFault)
  /-- The plan is refused. -/
  | check (fault : CheckFault)
  /-- The query of the plan cannot be corrected. -/
  | correction (fault : CorrectionFault)
  /-- The record store could not execute the plan, whose last text is given. -/
  | execution (failure : ExecutionFailure) (queryExecuted : String)
  /-- The records are not usable. -/
  | records (fault : RecordFault)
  /-- Execution was cancelled before the attempt with this number. -/
  | cancelled (attempt : Nat)
  /-- The deadline passed after so many milliseconds. -/
  | timedOut (limit : Nat)
  /-- A file could not be read. -/
  | file (message : String)

/-- The failure that a proposal without a plan is. -/
def ProposalFault.failure : ProposalFault → Failure
  | .model fault => .model fault
  | .planning fault => .planning fault

namespace Failure

/-- The failure of looking for a file that is not there. -/
def missingFile : Failure := .file "No such file or directory (os error 2)"

/-- The kind of a failure. -/
def kind : Failure → String
  | .catalog _ => "CatalogError"
  | .settings _ => "ConfigError"
  | .blankQuestion => "InvalidRequest"
  | .nothingDetected _ => "UnresolvedEntity"
  | .model _ => "PlanningError"
  | .planning _ => "PlanningError"
  | .check fault => "ValidationError::" ++ fault.kind.name
  | .correction _ => "CorrectionError"
  | .execution failure _ => "ExecutionError::" ++ failure.kind.name
  | .records _ => "StoreError"
  | .cancelled _ => "Cancelled"
  | .timedOut _ => "Timeout"
  | .file _ => "IoError"

/-- The message of a failure. -/
def message : Failure → String
  | .catalog fault => "Catalog error: " ++ fault.message
  | .settings fault => "Configuration error: " ++ fault.message
  | .blankQuestion => "Invalid request: Query text is empty"
  | .nothingDetected question =>
      "Unresolved entity: No document type recognised in '" ++ question ++
        "'. Name one explicitly, e.g. 'Sales Order' or 'Customer'"
  | .model fault => "LLM error: " ++ fault.message
  | .planning fault => "Planning error: " ++ fault.message
  | .check fault => "Validation error (" ++ fault.kind.name ++ "): " ++ fault.message
  | .correction fault => "Correction error: " ++ fault.message
  | .execution failure _ =>
      "Execution error (" ++ failure.kind.name ++ "): " ++ failure.message
  | .records fault => "Record store error: " ++ fault.message
  | .cancelled attempt =>
      "Cancelled: Execution cancelled before attempt " ++ toString attempt
  | .timedOut limit => "Timed out after " ++ toString limit ++ " ms"
  | .file message => "IO error: " ++ message

/-- The text of the plan that was executed last, where the failure tells it. -/
def queryExecuted? : Failure → Option String
  | .execution _ queryExecuted => some queryExecuted
  | _ => none

end Failure

/-- The failure that a result is, if it is one. -/
def ExecutionResult.toFailure? (result : ExecutionResult) : Option Failure :=
  result.failure?.map fun failure => .execution failure result.queryExecuted

end Inquiry
