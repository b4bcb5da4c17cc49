import Inquiry.Json.Writer
import Inquiry.Text.Blank
import Inquiry.Text.LowerCase
import Inquiry.Text.Quoted

/-!
# Operations on one entity

An operation names one of three kinds of question about a single entity (list
its records, count them, or fetch one by name) together with parameters:
conditions on fields, a limit, an order and a record name.  The kind and the
comparison of a condition are kept as they were proposed; `Operation.kind?`
and `Comparison.ofText?` say what they mean, if anything.
-/

set_option autoImplicit false

namespace Inquiry

/-! ## Kinds -/

/-- The kinds of operation. -/
inductive OperationKind where
  /-- A listing of the records that meet the conditions. -/
  | search
  /-- How many records meet the conditions. -/
  | count
  /-- One record by its name. -/
  | details
deriving DecidableEq

namespace OperationKind

/-- Every kind of operation. -/
def all : List OperationKind := [.search, .count, .details]

/-- The name of a kind. -/
def name : OperationKind → String
  | .search => "dynamic_search"
  | .count => "count_documents"
  | .details => "get_document_details"

/-- The kind that a text names, with blanks around it. -/
def ofText? (text : String) : Option OperationKind :=
  all.find? (fun kind => kind.name = Text.trimmed text)

end OperationKind

/-! ## Comparisons -/

/-- How a condition compares a field with its value. -/
inductive Comparison where
  | equal
  | notEqual
  | less
  | greater
  | atMost
  | atLeast
  | like
  | isIn
  | notIn
deriving DecidableEq

namespace Comparison

/-- The spellings of each comparison, in lower case. -/
def spellings : List (String × Comparison) :=
  [("=", .equal), ("==", .equal), ("!=", .notEqual), ("<>", .notEqual), ("<", .less),
    (">", .greater), ("<=", .atMost), (">=", .atLeast), ("like", .like), ("in", .isIn),
    ("not in", .notIn)]

/-- The comparison that a text spells, in any case and with blanks around it. -/
def ofText? (text : String) : Option Comparison :=
  let spelling := Text.lowered (Text.trimmed text)
  (spellings.find? (fun entry => entry.1 = spelling)).map Prod.snd

/-- The word or sign of a comparison in SQL. -/
def sign : Comparison → String
  | .equal => "="
  | .notEqual => "!="
  | .less => "<"
  | .greater => ">"
  | .atMost => "<="
  | .atLeast => ">="
  | .like => "LIKE"
  | .isIn => "IN"
  | .notIn => "NOT IN"

/-- Whether the comparison is with a list. -/
def isMembership : Comparison → Bool
  | .isIn | .notIn => true
  | _ => false

end Comparison

/-! ## Operations -/

/-- A condition on a field, its comparison as it was proposed. -/
structure Condition where
  field : String
  comparison : String
  value : Json

/-- The parameters of an operation. -/
structure Parameters where
  doctype : Option String := none
  filters : List Condition := []
  limit : Option Int := none
  orderBy : Option String := none
  /-- The name of the record to fetch. -/
  name : Option String := none

/-- An operation, its kind as it was proposed. -/
structure Operation where
  name : String
  parameters : Parameters

namespace Operation

/-- The kind of an operation, if it is one of the three. -/
def kind? (operation : Operation) : Option OperationKind := OperationKind.ofText? operation.name

end Operation

/-! ## Display -/

/-- Texts joined by a comma and a blank. -/
def commaList (texts : List String) : String := String.intercalate ", " texts

/-- A condition as it is shown: field, comparison and value. -/
def Condition.display (condition : Condition) : String :=
  condition.field ++ " " ++ condition.comparison ++ " " ++ condition.value.text

namespace Parameters

/-- The conditions as they are shown, unless there are none. -/
def filtersDisplay (parameters : Parameters) : List String :=
  if parameters.filters.isEmpty then []
  else ["filters=[" ++ commaList (parameters.filters.map (·.display)) ++ "]"]

/-- The parameters that are given, each with its name. -/
def displays (parameters : Parameters) : List String :=
  (parameters.doctype.map fun doctype => "doctype=" ++ Text.quoted doctype).toList ++
  (parameters.name.map fun name => "name=" ++ Text.quoted name).toList ++
  parameters.filtersDisplay ++
  (parameters.orderBy.map fun orderBy => "order_by=" ++ Text.quoted orderBy).toList ++
  (parameters.limit.map fun limit => "limit=" ++ toString limit).toList

end Parameters

/-- An operation as it is shown: its name and the parameters that are given. -/
def Operation.display (operation : Operation) : String :=
  operation.name ++ "(" ++ commaList operation.parameters.displays ++ ")"

end Inquiry
