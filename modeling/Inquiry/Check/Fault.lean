import Inquiry.Catalog.Entity
import Inquiry.Plan.Operation

/-!
# Why a plan is refused

A plan that is unsafe or incomplete is refused before it reaches the record
store.  Each cause has a kind, which callers can rely on, and a wording.
-/

set_option autoImplicit false

namespace Inquiry

/-- The kinds of refusal. -/
inductive CheckKind where
  | emptyTableName
  | unknownEntity
  | typeMismatch
  | unknownOperation
  | unknownField
  | invalidOperator
  | missingParameter
  | missingTableReference
  | unsafeQuery
deriving DecidableEq

/-- The name of a kind of refusal. -/
def CheckKind.name : CheckKind → String
  | .emptyTableName => "EmptyTableName"
  | .unknownEntity => "UnknownEntity"
  | .typeMismatch => "TypeMismatch"
  | .unknownOperation => "UnknownOperation"
  | .unknownField => "UnknownField"
  | .invalidOperator => "InvalidOperator"
  | .missingParameter => "MissingParameter"
  | .missingTableReference => "MissingTableReference"
  | .unsafeQuery => "UnsafeQuery"

/-- What a condition expects of its value. -/
inductive Expectation where
  | nonEmptyList
  | pattern
  | someValue
  | integer
  | truth
  | number
  | date
  | datetime
  | time
  | text
deriving DecidableEq

/-- The wording of an expectation. -/
def Expectation.wording : Expectation → String
  | .nonEmptyList => "a non-empty list"
  | .pattern => "a text pattern"
  | .someValue => "a value (field is required)"
  | .integer => "an integer"
  | .truth => "0, 1 or a boolean"
  | .number => "a number"
  | .date => "a YYYY-MM-DD date"
  | .datetime => "a YYYY-MM-DD HH:MM:SS datetime"
  | .time => "a HH:MM:SS time"
  | .text => "text"

/-- Why a plan is refused. -/
inductive CheckFault where
  /-- No operation has this name. -/
  | unknownOperation (operation : String)
  /-- The operation says nothing about which records. -/
  | missingDoctype (operation : String)
  /-- No entity is meant by this text. -/
  | unknownEntity (doctype : String)
  /-- The operation fetches one record but does not name it. -/
  | missingName (operation : String)
  /-- The entity has no such field. -/
  | unknownField (field entity : String)
  /-- The comparison of a condition is none. -/
  | unsupportedComparison (comparison field : String)
  /-- The order is not a field with a direction. -/
  | badOrder (orderBy : String)
  /-- The limit is zero or less. -/
  | limitNotPositive (limit : Int)
  /-- The value of a condition does not fit its field. -/
  | mismatch (field : Field) (expected : Expectation) (value : Json)
  /-- The code is blank. -/
  | noCode
  /-- The code holds more than one statement. -/
  | severalStatements (count : Nat)
  /-- The code is a statement other than a query. -/
  | notAQuery (statement : String)
  /-- The code cannot be read and holds a word that writes. -/
  | writeKeyword (keyword : String)
  /-- The code mentions no table. -/
  | noTable
  /-- A table reference of the code is empty. -/
  | emptyTable (reference : String)
  /-- A table reference of the code means no entity. -/
  | unknownTable (identifier : String)

namespace CheckFault

/-- The kind of a refusal. -/
def kind : CheckFault → CheckKind
  | .unknownOperation _ => .unknownOperation
  | .missingDoctype _ => .missingParameter
  | .unknownEntity _ => .unknownEntity
  | .missingName _ => .missingParameter
  | .unknownField _ _ => .unknownField
  | .unsupportedComparison _ _ => .invalidOperator
  | .badOrder _ => .invalidOperator
  | .limitNotPositive _ => .typeMismatch
  | .mismatch _ _ _ => .typeMismatch
  | .noCode => .missingParameter
  | .severalStatements _ => .unsafeQuery
  | .notAQuery _ => .unsafeQuery
  | .writeKeyword _ => .unsafeQuery
  | .noTable => .missingTableReference
  | .emptyTable _ => .emptyTableName
  | .unknownTable _ => .unknownEntity

/-- The wording of a refusal. -/
def message : CheckFault → String
  | .unknownOperation operation =>
      "Operation '" ++ operation ++ "' is not allowed; expected one of: " ++
        commaList (OperationKind.all.map (·.name))
  | .missingDoctype operation => "Operation '" ++ operation ++ "' requires a doctype"
  | .unknownEntity doctype => "Entity '" ++ doctype ++ "' does not exist in the catalog"
  | .missingName operation => "Operation '" ++ operation ++ "' requires a record name"
  | .unknownField field entity =>
      "Field '" ++ field ++ "' does not exist on '" ++ entity ++ "'"
  | .unsupportedComparison comparison field =>
      "Operator '" ++ comparison ++ "' on field '" ++ field ++ "' is not supported"
  | .badOrder orderBy => "order_by '" ++ orderBy ++ "' must be '<field> [asc|desc]'"
  | .limitNotPositive limit => "limit must be positive, got " ++ toString limit
  | .mismatch field expected value =>
      "Field '" ++ field.name ++ "' (" ++ field.type.name ++ ") expects " ++ expected.wording ++
        ", got " ++ value.text
  | .noCode => "Generated query has no code"
  | .severalStatements count =>
      "Generated code holds " ++ toString count ++ " statements, expected one"
  | .notAQuery statement => "Only SELECT queries are allowed, got: " ++ statement
  | .writeKeyword keyword => "Generated query contains forbidden keyword '" ++ keyword ++ "'"
  | .noTable => "Generated query does not reference any table"
  | .emptyTable reference =>
      "Table reference '" ++ reference ++ "' has an empty table name"
  | .unknownTable identifier =>
      "Table '" ++ markedTable identifier ++ "' does not match any catalog entity"

/-- Whether repairing table references may help: one is empty or means no entity. -/
def isRepairable (fault : CheckFault) : Bool :=
  fault.kind = .emptyTableName || fault.kind = .unknownEntity

end CheckFault

end Inquiry
