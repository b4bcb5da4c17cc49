import Inquiry.Code.Reference
import Inquiry.Number.Reading
import Inquiry.Plan.Basic
import Inquiry.Plan.Document

/-!
# From documents to plans

A plan document is loosely shaped; this module settles what it means.  The way
to answer is the one it names, else the one its members suggest.  Filters come
as an object from fields to values, or to pairs of a comparison and a value, or
to lists of values; or as a list of triples.  What cannot be carried into a
plan is a fault.
-/

set_option autoImplicit false

namespace Inquiry

namespace PlanDocument

/-! ## Parameters -/

/-- The trimmed text of a member, unless it is blank or no text. -/
def textParameter (name : String) (members : List (String × Json)) : Option String :=
  match (Json.lookUp name members).bind Json.string? with
  | none => none
  | some text => if Text.trimmed text = "" then none else some (Text.trimmed text)

/-- The limit: an integer, or a text that reads as one. -/
def limitParameter (members : List (String × Json)) : Except PlanningFault (Option Int) :=
  match Json.lookUp "limit" members with
  | none => .ok none
  | some .null => .ok none
  | some (.number number) =>
      match number.integer? with
      | some limit => .ok (some limit)
      | none => .error (.limitNotInteger (.number number))
  | some (.string text) =>
      match Reading.integer? (Text.trim text.toList) with
      | some limit => .ok (some limit)
      | none => .error (.limitNotInteger (.string text))
  | some other => .error (.limitNotInteger other)

/-- The condition of one member of an object of filters. -/
def conditionOfMember (field : String) : Json → Except PlanningFault Condition
  | .array items =>
      let plain : Except PlanningFault Condition :=
        if items.all Json.isScalar then .ok ⟨field, "in", .array items⟩
        else .error (.filterShape field (.array items))
      match items with
      | [.string comparison, operand] =>
          if (Comparison.ofText? comparison).isSome then .ok ⟨field, comparison, operand⟩ else plain
      | _ => plain
  | .object members => .error (.filterShape field (.object members))
  | scalar => .ok ⟨field, "=", scalar⟩

/-- The condition of one entry of a list of filters. -/
def conditionOfEntry : Json → Except PlanningFault Condition
  | .array [.string field, .string comparison, value] => .ok ⟨field, comparison, value⟩
  | other => .error (.filterEntry other)

/-- The conditions that filters mean. -/
def conditions : Option Json → Except PlanningFault (List Condition)
  | none => .ok []
  | some .null => .ok []
  | some (.object members) => members.mapM fun member => conditionOfMember member.1 member.2
  | some (.array items) => items.mapM conditionOfEntry
  | some other => .error (.filtersNotCollection other)

/-- The parameters of an operation. -/
def operationParameters : Option Json → Except PlanningFault Parameters
  | none => .ok {}
  | some .null => .ok {}
  | some (.object members) => do
      let limit ← limitParameter members
      let filters ← conditions (Json.lookUp "filters" members)
      return {
        doctype := textParameter "doctype" members
        filters
        limit
        orderBy := textParameter "order_by" members
        name := textParameter "name" members }
  | some other => .error (.parametersNotObject other)

/-! ## Plans -/

/-- A way to answer. -/
inductive Direction where
  | operation
  | query
deriving DecidableEq

/-- The way to answer that a document names or suggests. -/
def direction (document : PlanDocument) : Except PlanningFault Direction :=
  match document.executionType with
  | some given =>
      let name := Text.lowered (Text.trimmed given)
      if name = "direct_api" then .ok .operation
      else if name = "dynamic_query" then .ok .query
      else .error (.unknownExecutionType name)
  | none =>
      if document.apiName.isSome then .ok .operation
      else if document.code.isSome then .ok .query
      else .error .noDirection

/-- The operation of a document. -/
def operationPlan (document : PlanDocument) : Except PlanningFault Operation := do
  let name := (document.apiName.map Text.trimmed).getD ""
  if name = "" then throw .noOperation
  let parameters ← operationParameters document.parameters
  return { name, parameters }

/-- The generated query of a document; its entities are read off the code if none are given. -/
def queryPlan (catalog : Catalog) (document : PlanDocument) :
    Except PlanningFault GeneratedQuery :=
  let code := document.code.getD ""
  if Text.trimmed code = "" then .error .noCode
  else
    .ok {
      code
      referencedEntities :=
        if document.referencedEntities.isEmpty then Code.referencedEntities catalog code.toList
        else document.referencedEntities }

/-- The plan that a document means. -/
def plan (catalog : Catalog) (document : PlanDocument) : Except PlanningFault Plan := do
  match ← document.direction with
  | .operation => return .operation (← document.operationPlan)
  | .query => return .query (← document.queryPlan catalog)

end PlanDocument

end Inquiry
