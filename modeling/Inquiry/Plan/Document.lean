import Inquiry.Catalog.File
import Inquiry.Plan.Extraction
import Inquiry.Plan.Fault

/-!
# Plan documents

A plan document is the answer of a proposer before its meaning is settled:
how to answer, the name of an operation and its parameters, or code, and the
reasons for the choice.  As a JSON object its code may also be called query and
its entities doctypes, unknown members are ignored, and a known one must not be
given twice.
-/

set_option autoImplicit false

namespace Inquiry

/-- The answer of a proposer. -/
structure PlanDocument where
  executionType : Option String := none
  apiName : Option String := none
  parameters : Option Json := none
  code : Option String := none
  referencedEntities : List String := []
  reasoning : String := ""

namespace PlanDocument

/-- The names of the members of a document; later spellings stand for earlier ones. -/
def memberNames : List (String × String) :=
  [("execution_type", "execution_type"), ("api_name", "api_name"), ("parameters", "parameters"),
    ("code", "code"), ("query", "code"), ("referenced_entities", "referenced_entities"),
    ("doctypes", "referenced_entities"), ("reasoning", "reasoning")]

/-- The first name of a known member. -/
def firstName (name : String) : Option String :=
  (memberNames.find? (fun entry => entry.1 = name)).map Prod.snd

/-- A member that may be left out or null. -/
def optional {Value : Type} (name : String) (read : Written → Option Value)
    (members : List (String × Written)) : Option (Option Value) :=
  Written.withDefault name (Written.optional? read) none members

/-- The document that a written object is. -/
def ofWritten? : Written → Option PlanDocument
  | .object written => do
      let members ← Written.knownMembers firstName written
      let executionType ← optional "execution_type" Written.string? members
      let apiName ← optional "api_name" Written.string? members
      let parameters ← optional "parameters" (Written.settle (Written.greatestDepth - 1)) members
      let code ← optional "code" Written.string? members
      let referencedEntities ←
        Written.withDefault "referenced_entities" (Written.list? Written.string?) [] members
      let reasoning ← Written.withDefault "reasoning" Written.string? "" members
      return { executionType, apiName, parameters, code, referencedEntities, reasoning }
  | _ => none

/-- The document of a JSON text. -/
def ofJsonText? (text : List Char) : Option PlanDocument :=
  (Written.read text).bind ofWritten?

/-- The document in the answer of a model. -/
def ofAnswer (answer : String) : Except PlanningFault PlanDocument :=
  match Extraction.object? answer.toList with
  | none => .error (.noObject answer)
  | some text =>
      match ofJsonText? text with
      | none => .error .malformed
      | some document => .ok document

end PlanDocument

end Inquiry
