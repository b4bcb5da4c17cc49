import Inquiry.Plan.Document
import Inquiry.Planning.Model
import Inquiry.Planning.Prompt

/-!
# Proposers

A proposer answers a planning request with a plan document, after some time,
or it never answers.  One proposer works by keywords and needs nothing from
outside; another asks a model; the others say what they are told to say.
-/

set_option autoImplicit false

namespace Inquiry

/-- The answer of a proposer. -/
structure Proposal where
  outcome : Except ProposalFault PlanDocument
  /-- How long the answer took, in milliseconds. -/
  took : Nat := 0

/-- Someone who answers planning requests; none stands for no answer ever. -/
structure Proposer where
  name : String
  propose : PlanningRequest → Option Proposal

namespace Proposer

/-! ## By keywords -/

/-- The words that ask for a count. -/
def countWords : List String := ["how many", "count", "number of"]

/-- The words for the states of a document, with the numbers of these states. -/
def stateWords : List (String × Int) :=
  [("draft", 0), ("submitted", 1), ("cancelled", 2), ("canceled", 2)]

/-- The kind of operation that a question in lower case asks for. -/
def kindOf (question : List Char) : OperationKind :=
  if countWords.any (Text.mentions question) then .count else .search

/-- The condition that a question in lower case puts on the state of a document. -/
def stateFilter (question : List Char) : List (String × Json) :=
  match stateWords.find? (fun entry => Text.mentions question entry.1) with
  | none => []
  | some (_, state) => [("filters", Json.ofMembers [("docstatus", .integer state)])]

/-- How many records are listed when nothing else is said. -/
def listingLimit : Int := 20

/-- The limit and the order of a listing. -/
def listingMembers : OperationKind → List (String × Json)
  | .search => [("limit", .integer listingLimit), ("order_by", .string "modified desc")]
  | _ => []

/-- The document that keywords suggest for a question about an entity. -/
def keywordDocument (question : String) (entity : Entity) : PlanDocument :=
  let text := Text.lower question.toList
  let kind := kindOf text
  { executionType := some "direct_api"
    apiName := some kind.name
    parameters := some (Json.ofMembers
      ([("doctype", .string entity.name)] ++ stateFilter text ++ listingMembers kind))
    referencedEntities := [entity.name]
    reasoning := "Keyword rules: " ++ kind.name ++ " on " ++ entity.name }

/-- The proposer that counts or lists the entity detected first. -/
def rules : Proposer where
  name := "rules"
  propose request :=
    match request.topEntity? with
    | none => some ⟨.error (.planning .noEntity), 0⟩
    | some entity => some ⟨.ok (keywordDocument request.question entity), 0⟩

/-! ## By a model -/

/-- The document in the answer of a model. -/
def modelDocument (settings : ModelSettings) (transport : Transport) (request : PlanningRequest) :
    Except ProposalFault PlanDocument :=
  match settings.complete transport Prompt.instructions (Prompt.text request) with
  | .error fault => .error (.model fault)
  | .ok answer => (PlanDocument.ofAnswer answer).mapError .planning

/-- The proposer that asks a model. -/
def model (settings : ModelSettings) (transport : Transport) : Proposer where
  name := "llm"
  propose request := some ⟨modelDocument settings transport request, 0⟩

/-! ## By a script -/

/-- The proposer that always has the same answer. -/
def fixed (outcome : Except ProposalFault PlanDocument) : Proposer where
  name := "scripted"
  propose _ := some ⟨outcome, 0⟩

/-- The proposer that always gives the text of an answer. -/
def answering (text : String) : Proposer :=
  fixed ((PlanDocument.ofAnswer text).mapError .planning)

/-- The proposer that never answers. -/
def silent : Proposer where
  name := "scripted"
  propose _ := none

end Proposer

end Inquiry
