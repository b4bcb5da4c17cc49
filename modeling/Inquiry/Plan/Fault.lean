import Inquiry.Json.Writer

/-!
# What can go wrong in planning

A model may fail to answer, and an answer may fail to be a plan.
-/

set_option autoImplicit false

namespace Inquiry

/-- Why a model gave no answer. -/
inductive ModelFault where
  /-- There is no key to call it with. -/
  | noKey
  /-- The provider works by rules and has no model to call. -/
  | noRemoteModel
  /-- The call to a chat model did not go through. -/
  | callFailed
  /-- The call to Gemini did not go through. -/
  | geminiCallFailed
  /-- The model reported this. -/
  | reported (message : String)
deriving DecidableEq

/-- The wording of a model fault. -/
def ModelFault.message : ModelFault → String
  | .noKey => "No API key configured"
  | .noRemoteModel => "Rule-based provider has no remote model"
  | .callFailed => "LLM API call failed"
  | .geminiCallFailed => "Gemini API call failed"
  | .reported message => message

/-- Why an answer is not a plan. -/
inductive PlanningFault where
  /-- The answer holds no JSON object. -/
  | noObject (answer : String)
  /-- The JSON object is not a plan document. -/
  | malformed
  /-- The document says nothing about how to answer. -/
  | noDirection
  /-- The document names no operation. -/
  | noOperation
  /-- The document has no code. -/
  | noCode
  /-- The document names a way to answer that does not exist. -/
  | unknownExecutionType (name : String)
  /-- The parameters are not an object. -/
  | parametersNotObject (value : Json)
  /-- The limit is not an integer. -/
  | limitNotInteger (value : Json)
  /-- The value of a filter has a shape that means nothing. -/
  | filterShape (field : String) (value : Json)
  /-- An entry of a list of filters is not a triple. -/
  | filterEntry (value : Json)
  /-- The filters are neither an object nor a list. -/
  | filtersNotCollection (value : Json)
  /-- Rules need an entity to plan with. -/
  | noEntity
  /-- A listing that replaces a generated query has no entity. -/
  | nothingToList
  /-- The proposer reported this. -/
  | reported (message : String)

/-- The beginning of an answer, as it is shown. -/
def answerStart (answer : String) : String := String.ofList (answer.toList.take 200)

/-- The wording of a planning fault. -/
def PlanningFault.message : PlanningFault → String
  | .noObject answer => "No JSON object in collaborator answer: " ++ answerStart answer
  | .malformed => "Malformed plan document"
  | .noDirection => "Plan document has no execution_type, api_name or code"
  | .noOperation => "direct_api plan is missing api_name"
  | .noCode => "dynamic_query plan has no code"
  | .unknownExecutionType name => "Unknown execution_type '" ++ name ++ "'"
  | .parametersNotObject value => "parameters must be an object, got " ++ value.text
  | .limitNotInteger (.string value) => "limit must be an integer, got '" ++ value ++ "'"
  | .limitNotInteger value => "limit must be an integer, got " ++ value.text
  | .filterShape field value => "Unsupported filter shape for '" ++ field ++ "': " ++ value.text
  | .filterEntry value => "Filter entries must be [field, operator, value], got " ++ value.text
  | .filtersNotCollection value => "filters must be an object or a list, got " ++ value.text
  | .noEntity => "Rule-based planning needs at least one detected entity"
  | .nothingToList => "Dynamic queries are disabled and no entity is available for a listing"
  | .reported message => message

/-- Why a proposer gave no plan. -/
inductive ProposalFault where
  | model (fault : ModelFault)
  | planning (fault : PlanningFault)

end Inquiry
