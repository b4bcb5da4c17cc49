import Inquiry.Catalog.Basic
import Inquiry.Store.Basic
import Inquiry.Store.Clause
import Inquiry.Text.Span

/-!
# Selections

An operation becomes a selection: the table of its entity, clauses for the
record name and the conditions, and what is wanted of the rows that are
selected.  Every column of a selection is a field of the entity, and every
value stands beside the text and not in it: `Selection.text` shows a question
mark for each of `Selection.parameters`, in the same order.
-/

set_option autoImplicit false

namespace Inquiry

/-! ## Faults -/

/-- Why an operation is no selection. -/
inductive SelectionFault where
  /-- The operation is none of the three. -/
  | unknownOperation (operation : String)
  /-- The operation says nothing about which records. -/
  | missingDoctype
  /-- No entity is meant by this text. -/
  | unknownEntity (doctype : String)
  /-- The operation fetches one record but does not name it. -/
  | missingName
  /-- The entity has no such field. -/
  | unknownColumn (field : String)
  /-- The comparison of a condition is none. -/
  | unsupportedComparison (comparison : String)
deriving DecidableEq

/-- A fault as the error of a record store. -/
def SelectionFault.error : SelectionFault → StoreError
  | .unknownOperation operation =>
      ⟨"unknown_operation", "Operation '" ++ operation ++ "' is not supported"⟩
  | .missingDoctype => ⟨"missing_doctype", "Operation has no doctype"⟩
  | .unknownEntity doctype =>
      ⟨"no_such_table", "no such table: " ++ tableNameOf doctype⟩
  | .missingName => ⟨"missing_name", OperationKind.details.name ++ " needs a name"⟩
  | .unknownColumn field => ⟨"unknown_column", "no such column: " ++ field⟩
  | .unsupportedComparison comparison =>
      ⟨"invalid_operator", "Unsupported operator '" ++ comparison ++ "'"⟩

/-! ## Selections -/

/-- A column that rows are sorted by, and in which direction. -/
structure SortKey where
  column : String
  ascending : Bool
deriving DecidableEq

/-- What is wanted of the rows that are selected. -/
inductive Wanted where
  /-- How many there are. -/
  | count
  /-- One of them. -/
  | first
  /-- All of them, perhaps sorted, perhaps up to a limit. -/
  | listing (order : Option SortKey) (limit : Option Int)
deriving DecidableEq

/-- Rows of a table that meet all clauses. -/
structure Selection where
  table : String
  clauses : List Clause
  wanted : Wanted
deriving DecidableEq

namespace Selection

/-! ## Text and parameters -/

/-- The text in front of the table. -/
def head (selection : Selection) : String :=
  match selection.wanted with
  | .count => "SELECT COUNT(*) AS count FROM "
  | _ => "SELECT * FROM "

/-- Texts of clauses, all of which must hold. -/
def conjunction (texts : List String) : String := String.intercalate " AND " texts

/-- The text of the clauses. -/
def conditionText (selection : Selection) : String :=
  if selection.clauses.isEmpty then ""
  else " WHERE " ++ conjunction (selection.clauses.map (·.text))

/-- The text of an order. -/
def orderText : Option SortKey → String
  | none => ""
  | some key =>
      " ORDER BY " ++ quotedName key.column ++ (if key.ascending then " ASC" else " DESC")

/-- The text of a limit. -/
def limitText : Option Int → String
  | none => ""
  | some limit => " LIMIT " ++ toString limit

/-- The text after the clauses. -/
def tail (selection : Selection) : String :=
  match selection.wanted with
  | .count => ""
  | .first => " LIMIT 1"
  | .listing order limit => orderText order ++ limitText limit

/-- The text of a selection. -/
def text (selection : Selection) : String :=
  selection.head ++ quotedName selection.table ++ selection.conditionText ++ selection.tail

/-- The values that are bound to the marks in the text, in order. -/
def parameters (selection : Selection) : List SqlValue := selection.clauses.flatMap (·.values)

/-- The text in front of the marks of the first clause that cannot be read, if there is one. -/
def frontOfMalformed? (selection : Selection) : Option String :=
  let good := selection.clauses.takeWhile (fun clause => !clause.isMalformed)
  (selection.clauses.find? (·.isMalformed)).map fun bad =>
    selection.head ++ quotedName selection.table ++ " WHERE " ++
      conjunction (good.map (·.text) ++ [bad.front])

/-! ## From operations -/

/-- The column of a field, which the entity must have. -/
def columnOf (entity : Entity) (field : String) : Except SelectionFault String :=
  if entity.hasField field then .ok field else .error (.unknownColumn field)

/-- The clause of a column that compares with a JSON value. -/
def clauseOf (column : String) (comparison : Comparison) (value : Json) : Clause :=
  match comparison, value with
  | .isIn, .array items => .isAmong column false (items.map SqlValue.ofJson)
  | .notIn, .array items => .isAmong column true (items.map SqlValue.ofJson)
  | .equal, .null => .isNull column false
  | .notEqual, .null => .isNull column true
  | comparison, value => .compare column comparison (SqlValue.ofJson value)

/-- The clause of a condition. -/
def clause (entity : Entity) (condition : Condition) : Except SelectionFault Clause := do
  let column ← columnOf entity condition.field
  match Comparison.ofText? condition.comparison with
  | none => throw (.unsupportedComparison condition.comparison)
  | some comparison => return clauseOf column comparison condition.value

/-- The clause of the name of a record. -/
def nameClause (name : String) : Clause := .compare "name" .equal (.text name)

/-- The key of an order, descending unless it says otherwise. -/
def sortKey (entity : Entity) (orderBy : String) : Except SelectionFault SortKey := do
  let words := Text.words orderBy.toList
  let column ← columnOf entity (String.ofList (words.headD []))
  return { column, ascending := words.tail.head?.any (fun word => Text.lower word = "asc".toList) }

/-- The clauses for the name of the record that an operation fetches, if it fetches one. -/
def nameClauses (kind : OperationKind) (name : Option String) :
    Except SelectionFault (List Clause) :=
  match kind, name with
  | .details, none => .error .missingName
  | .details, some name => .ok [nameClause name]
  | _, _ => .ok []

/-- What an operation wants of the rows that are selected; a limit is at least one. -/
def wantedOf (entity : Entity) (kind : OperationKind) (parameters : Parameters) :
    Except SelectionFault Wanted :=
  match kind with
  | .count => .ok .count
  | .details => .ok .first
  | .search => do
      let order ← parameters.orderBy.mapM (sortKey entity)
      return .listing order (parameters.limit.map (max 1))

/-- The selection of an operation. -/
def ofOperation (catalog : Catalog) (operation : Operation) : Except SelectionFault Selection := do
  let some kind := operation.kind? | throw (.unknownOperation operation.name)
  let parameters := operation.parameters
  let some doctype := parameters.doctype | throw .missingDoctype
  let some entity := catalog.entity? doctype | throw (.unknownEntity doctype)
  let nameClauses ← nameClauses kind parameters.name
  let clauses ← parameters.filters.mapM (clause entity)
  let wanted ← wantedOf entity kind parameters
  return { table := entity.tableName, clauses := nameClauses ++ clauses, wanted }

end Selection

end Inquiry
