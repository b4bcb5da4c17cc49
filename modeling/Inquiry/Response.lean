import Inquiry.Failure

/-!
# Responses

A response answers one question: with rows, or with the kind and the message
of a failure.  It also tells what is known about how the answer came about, as
far as the question got: the detected entities, the reasoning, the way of
answering, the text that was executed last and the number of attempts.
-/

set_option autoImplicit false

namespace Inquiry

/-- What is known about a question so far; it is kept when a later stage fails. -/
structure Trace where
  detected : List Detected := []
  reasoning : Option String := none
  executionType : Option String := none
  queryText : Option String := none
  attempts : Nat := 0

/-- The answer to one question. -/
structure Response where
  outcome : Except Failure (List Row)
  /-- The text of the last plan that was made or executed. -/
  queryExecuted : Option String
  executionType : Option String
  detected : List Detected
  reasoning : Option String
  attempts : Nat

/-- The response that tells an outcome and what is known besides. -/
def Trace.respond (trace : Trace) (outcome : Except Failure ExecutionResult) : Response where
  outcome := outcome.map (·.rows)
  queryExecuted :=
    match outcome with
    | .ok result => some result.queryExecuted
    | .error failure => failure.queryExecuted?.or trace.queryText
  executionType := trace.executionType
  detected := trace.detected
  reasoning := trace.reasoning
  attempts :=
    match outcome with
    | .ok result => result.attempts
    | .error _ => trace.attempts

@[simp] theorem Trace.outcome_respond (trace : Trace) (outcome : Except Failure ExecutionResult) :
    (trace.respond outcome).outcome = outcome.map (·.rows) := rfl

namespace Response

/-- Whether the response has rows. -/
def succeeded (response : Response) : Bool :=
  match response.outcome with
  | .ok _ => true
  | .error _ => false

/-! ## As JSON -/

/-- A text that may be missing. -/
def optionalText : Option String → Json
  | none => .null
  | some text => .string text

/-- A detected entity. -/
def detectedJson (detected : Detected) : Json :=
  Json.ofMembers
    [("entity_name", .string detected.entityName), ("confidence", .double detected.confidence),
      ("exact_match", .bool detected.exactMatch),
      ("matched_keyword", .string detected.matchedKeyword)]

/-- The rows or the failure of a response, as the member that tells it. -/
def outcomeMember (response : Response) : String × Json :=
  match response.outcome with
  | .ok rows =>
      ("data", Json.ofMembers
        [("results", .array (rows.map .object)), ("count", .natural rows.length)])
  | .error failure =>
      ("error", Json.ofMembers
        [("kind", .string failure.kind), ("message", .string failure.message)])

/-- The members of a response. -/
def members (response : Response) : List (String × Json) :=
  [("success", .bool response.succeeded), response.outcomeMember,
    ("query_executed", optionalText response.queryExecuted),
    ("execution_type", optionalText response.executionType),
    ("detected_entities", .array (response.detected.map detectedJson)),
    ("reasoning", optionalText response.reasoning),
    ("attempts", .natural response.attempts)]

/-- A response as JSON. -/
def json (response : Response) : Json := Json.ofMembers response.members

end Response

end Inquiry
