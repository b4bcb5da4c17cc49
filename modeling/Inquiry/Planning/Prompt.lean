import Inquiry.Number.Decimal
import Inquiry.Plan.Operation
import Inquiry.Planning.Request

/-!
# What a model is told

A model that plans is told its task once, and then, for each question, the
question, the fields of the detected entities, the operations that exist, some
examples and the form of the answer.
-/

set_option autoImplicit false

namespace Inquiry.Prompt

/-- Lines put together. -/
def lines (texts : List String) : String := String.intercalate "\n" texts

/-! ## Fixed parts -/

/-- What a model is told about its task. -/
def instructions : String :=
  lines [
    "You are a query planner for an ERP record database.",
    "",
    "## Your Role",
    "",
    "Turn one user question into exactly one execution plan. You never run anything " ++
      "yourself.",
    "",
    "## Execution Types",
    "",
    "1. **direct_api**: a safe, parameterized operation. Use it for simple listing, " ++
      "counting and filtering on ONE entity.",
    "2. **dynamic_query**: a read-only SQL SELECT. Use it only for joins, aggregates, " ++
      "negation across entities (\"customers with no orders\") or comparisons between " ++
      "entities.",
    "",
    "Prefer direct_api whenever the question fits it.",
    "",
    "## Table Naming",
    "",
    "Every entity is stored in a table named `tab` + the entity name with spaces " ++
      "removed, always in backticks:",
    "- \"Sales Order\" -> `tabSalesOrder`",
    "- \"Customer\" -> `tabCustomer`",
    "",
    "Never write an empty table name such as `tab` or `tab''`. Only use the entities " ++
      "listed in the schema section.",
    "",
    "## Standard Fields",
    "",
    "Every table has: name, docstatus (0 = draft, 1 = submitted, 2 = cancelled), " ++
      "creation, modified, owner, modified_by.",
    "",
    "## Rules",
    "",
    "- Only SELECT statements. Never INSERT, UPDATE, DELETE, DROP or ALTER.",
    "- Use only fields listed in the schema section or the standard fields.",
    "- When a question names a specific multi-word entity (\"sales order\"), plan for " ++
      "that entity, not for other entities sharing a word with it.",
    "- Answer with the JSON object only."]

/-- Questions and the plans for them. -/
def workedExamples : String :=
  lines [
    "## Examples",
    "",
    "Question: \"get all sales orders\"",
    "```json",
    "\x7b\"execution_type\": \"direct_api\", \"api_name\": \"dynamic_search\", " ++
      "\"parameters\": \x7b\"doctype\": \"Sales Order\", \"limit\": 20\x7d, \"reasoning\": " ++
      "\"Simple listing of one entity\"\x7d",
    "```",
    "",
    "Question: \"how many purchase orders are submitted?\"",
    "```json",
    "\x7b\"execution_type\": \"direct_api\", \"api_name\": \"count_documents\", " ++
      "\"parameters\": \x7b\"doctype\": \"Purchase Order\", \"filters\": " ++
      "\x7b\"docstatus\": 1\x7d\x7d, \"reasoning\": \"Filtered count on one entity\"\x7d",
    "```",
    "",
    "Question: \"customers with no sales orders in last 1 month\"",
    "```json",
    "\x7b\"execution_type\": \"dynamic_query\", \"code\": \"SELECT c.name, " ++
      "c.customer_name FROM `tabCustomer` c WHERE NOT EXISTS (SELECT 1 FROM " ++
      "`tabSalesOrder` so WHERE so.customer = c.name AND so.transaction_date >= " ++
      "DATE('now', '-1 month'))\", \"referenced_entities\": [\"Customer\", \"Sales " ++
      "Order\"], \"reasoning\": \"Negation across two entities needs a subquery\"\x7d",
    "```",
    "",
    "Question: \"show sales order totals above 1000\" (detected: Sales Order, Purchase " ++
      "Order, Work Order)",
    "```json",
    "\x7b\"execution_type\": \"direct_api\", \"api_name\": \"dynamic_search\", " ++
      "\"parameters\": \x7b\"doctype\": \"Sales Order\", \"filters\": \x7b\"grand_total\": " ++
      "[\">\", 1000]\x7d, \"order_by\": \"grand_total desc\", \"limit\": 20\x7d, " ++
      "\"reasoning\": \"The question names 'sales order' explicitly, so the other order " ++
      "entities are ignored\"\x7d",
    "```"]

/-- The form in which a plan is to be given. -/
def responseFormat : String :=
  lines [
    "## Response Format",
    "",
    "Return one JSON object:",
    "\x7b",
    "  \"execution_type\": \"direct_api\" | \"dynamic_query\",",
    "  \"api_name\": \"<operation, direct_api only>\",",
    "  \"parameters\": \x7b\"doctype\": \"...\", \"filters\": \x7b\"field\": value or " ++
      "[\"operator\", value]\x7d, \"limit\": 20, \"order_by\": \"field desc\", \"name\": " ++
      "\"...\"\x7d,",
    "  \"code\": \"<SELECT statement, dynamic_query only>\",",
    "  \"referenced_entities\": [\"<entity names used in code>\"],",
    "  \"reasoning\": \"<one sentence>\"",
    "\x7d",
    "Filter operators: =, !=, <, >, <=, >=, like, in, not in."]

/-! ## Parts of a question -/

/-- What an operation does and which parameters it takes. -/
def description : OperationKind → String
  | .search => "list records. parameters: doctype, filters, limit, order_by"
  | .count => "count records. parameters: doctype, filters"
  | .details => "fetch one record by name. parameters: doctype, name"

/-- The operations that exist. -/
def operations : String :=
  lines (OperationKind.all.map fun kind => "- " ++ kind.name ++ ": " ++ description kind)

/-- At most this many fields of an entity are listed. -/
def mostFields : Nat := 30

/-- The choices of a field on one line, if it has any. -/
def choices (field : Field) : String :=
  match field.options with
  | none => ""
  | some options =>
      if options.isEmpty then ""
      else
        " options: " ++ String.ofList (options.toList.flatMap fun symbol =>
          if symbol = '\n' then " | ".toList else [symbol])

/-- The line of a field. -/
def fieldLine (field : Field) : String :=
  "- " ++ field.name ++ " (" ++ field.type.name ++ ")" ++
    (if field.nullable then "" else " [REQUIRED]") ++ choices field

/-- The line about the fields that are not listed, if there are any. -/
def omission (entity : Entity) : String :=
  if mostFields < entity.fields.length then
    "\n- ... " ++ toString (entity.fields.length - mostFields) ++ " more fields"
  else ""

/-- The part about one entity. -/
def entityPart (detected : Detected) (entity : Entity) : String :=
  "### " ++ entity.name ++ " (table " ++ quotedTable entity.tableName ++ ", confidence " ++
    Decimal.oneDigitText detected.confidence ++ ")\n" ++
    lines ((entity.fields.take mostFields).map fieldLine) ++ omission entity

/-- The part about the detected entities. -/
def entitiesPart (request : PlanningRequest) : String :=
  if request.entities.isEmpty then "No entities were detected."
  else
    String.intercalate "\n\n" (request.entities.map fun found => entityPart found.1 found.2)

/-- The whole text for a question. -/
def text (request : PlanningRequest) : String :=
  String.intercalate "\n\n"
    ["## Question", Text.trimmed request.question, "## Detected Entities", entitiesPart request,
      "## Direct Operations", operations, workedExamples, responseFormat]

end Inquiry.Prompt
