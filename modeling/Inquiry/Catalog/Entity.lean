import Inquiry.Catalog.Identifier

/-!
# Record types and their fields

A record type, here called an entity, has named fields, each of one of
thirteen kinds, and aliases that people also call it by.  Beside its own
fields every entity has six standard ones.
-/

set_option autoImplicit false

namespace Inquiry

/-! ## Kinds of fields -/

/-- The kind of a field. -/
inductive FieldType where
  | data
  | link
  | choice
  | text
  | smallText
  | int
  | float
  | currency
  | percent
  | check
  | date
  | datetime
  | time
deriving DecidableEq

namespace FieldType

/-- Every kind of field, in the order of declaration. -/
def all : List FieldType :=
  [.data, .link, .choice, .text, .smallText, .int, .float, .currency, .percent, .check, .date,
    .datetime, .time]

/-- The name of a kind, as catalog files give it. -/
def name : FieldType → String
  | .data => "Data"
  | .link => "Link"
  | .choice => "Select"
  | .text => "Text"
  | .smallText => "Small Text"
  | .int => "Int"
  | .float => "Float"
  | .currency => "Currency"
  | .percent => "Percent"
  | .check => "Check"
  | .date => "Date"
  | .datetime => "Datetime"
  | .time => "Time"

/-- The kind with a name. -/
def ofName? (text : String) : Option FieldType := all.find? (fun kind => kind.name = text)

/-- Whether the field holds free text, a link or a choice. -/
def isTextual : FieldType → Bool
  | .data | .link | .choice | .text | .smallText => true
  | _ => false

/-- Whether the field holds a number. -/
def isNumeric : FieldType → Bool
  | .int | .float | .currency | .percent | .check => true
  | _ => false

end FieldType

/-- The type that a column of the record store is declared with. -/
inductive ColumnType where
  | integer
  | real
  | text
deriving DecidableEq

/-- The word for a column type. -/
def ColumnType.word : ColumnType → String
  | .integer => "INTEGER"
  | .real => "REAL"
  | .text => "TEXT"

/-- The column type of a kind of field. -/
def FieldType.columnType : FieldType → ColumnType
  | .int | .check => .integer
  | .float | .currency | .percent => .real
  | _ => .text

/-! ## Fields and entities -/

/-- A field of an entity. -/
structure Field where
  name : String
  type : FieldType
  /-- Whether a record may leave the field without a value. -/
  nullable : Bool := true
  label : Option String := none
  /-- The target of a link or the choices, one on a line. -/
  options : Option String := none
deriving DecidableEq

/-- A record type. -/
structure Entity where
  name : String
  fields : List Field
  aliases : List String := []
deriving DecidableEq

/-- The fields that every entity has beside its own. -/
def standardFields : List (String × FieldType) :=
  [("name", .data), ("docstatus", .int), ("creation", .datetime), ("modified", .datetime),
    ("owner", .data), ("modified_by", .data)]

/-- Whether a name is that of a standard field. -/
def isStandardField (name : String) : Bool :=
  standardFields.any (fun field => field.1 = name)

/-- The standard field with a name; only the record name itself is required. -/
def standardField? (name : String) : Option Field :=
  (standardFields.find? (fun field => field.1 = name)).map fun field =>
    { name := field.1, type := field.2, nullable := field.1 != "name" }

namespace Entity

/-- The table of an entity. -/
def tableName (entity : Entity) : String := tableNameOf entity.name

/-- The key by which texts are recognised as naming the entity. -/
def key (entity : Entity) : List Char := identifierKey entity.name

/-- The entity with the blanks around its name removed. -/
def trimmed (entity : Entity) : Entity := { entity with name := Text.trimmed entity.name }

/-- The name of a trimmed entity has no blanks around it. -/
theorem trimmed_name_trimmed (entity : Entity) :
    Text.trimmed entity.trimmed.name = entity.trimmed.name := by
  rw [Entity.trimmed, Text.trimmed_trimmed]

/-- The field with a name: an own field first, else a standard one. -/
def field? (entity : Entity) (name : String) : Option Field :=
  match entity.fields.find? (fun field => field.name = name) with
  | some field => some field
  | none => standardField? name

/-- Whether the entity has a field with a name. -/
def hasField (entity : Entity) (name : String) : Bool := (entity.field? name).isSome

end Entity

end Inquiry
