import Inquiry.Store.Selection

/-!
# Tables

A database is a list of tables, and a table has columns and rows, each row one
value for each column.  The table of an entity has a column for each standard
field and one for each field of its own.  Names of tables and columns are
compared without regard to the case of the letters A to Z.

A row is written by naming columns: what is not named is null, every value is
kept as its column keeps it, a required column must not be null, and no two
rows share the value of a key column.
-/

set_option autoImplicit false

namespace Inquiry

/-- Whether two names are the same apart from the case of the letters A to Z. -/
def sameName (left right : String) : Bool :=
  left.toList.map Char.toLower = right.toList.map Char.toLower

/-- A column of a table. -/
structure Column where
  name : String
  type : ColumnType
  /-- Whether the column must not be null. -/
  required : Bool := false
  /-- Whether no two rows may share a value. -/
  isKey : Bool := false
deriving DecidableEq

/-- A table of the record store. -/
structure Table where
  name : String
  columns : List Column
  rows : List (List SqlValue) := []
deriving DecidableEq

/-- What can go wrong with tables. -/
inductive TableFault where
  /-- Two columns have the same name. -/
  | duplicateColumn (column : String)
  /-- There is no such table. -/
  | noTable (table : String)
  /-- The table has no such column. -/
  | noColumn (table column : String)
  /-- A required column is null. -/
  | isNull (table column : String)
  /-- The value of a key column is there already. -/
  | repeated (table column : String)
deriving DecidableEq

/-- The wording of a fault with tables. -/
def TableFault.message : TableFault → String
  | .duplicateColumn column => "duplicate column name: " ++ column
  | .noTable table => "no such table: " ++ table
  | .noColumn table column => "table " ++ table ++ " has no column named " ++ column
  | .isNull table column => "NOT NULL constraint failed: " ++ table ++ "." ++ column
  | .repeated table column => "UNIQUE constraint failed: " ++ table ++ "." ++ column

/-! ## Columns -/

/-- The columns of the standard fields. -/
def standardColumns : List Column :=
  [{ name := "name", type := .text, isKey := true },
    { name := "docstatus", type := .integer, required := true },
    { name := "creation", type := .text },
    { name := "modified", type := .text },
    { name := "owner", type := .text },
    { name := "modified_by", type := .text }]

/-- The columns of the table of an entity. -/
def Entity.columns (entity : Entity) : List Column :=
  standardColumns ++
    (entity.fields.filter (fun field => !isStandardField field.name)).map fun field =>
      { name := field.name, type := field.type.columnType }

/-- How a column is declared: its name, its type, and what is asked of its values. -/
def Column.declaration (column : Column) : String :=
  quotedName column.name ++ " " ++ column.type.word ++
    (if column.isKey then " PRIMARY KEY" else "") ++
    (if column.required then " NOT NULL DEFAULT 0" else "")

/-- The statement that creates the table of an entity. -/
def Entity.creation (entity : Entity) : String :=
  "CREATE TABLE IF NOT EXISTS " ++ quotedName entity.tableName ++ " (" ++
    commaList (entity.columns.map Column.declaration) ++ ");"

/-- The first column that has the name of an earlier one. -/
def duplicateColumn? : (earlier : List Column) → List Column → Option Column
  | _, [] => none
  | earlier, column :: rest =>
      if earlier.any (fun other => sameName other.name column.name) then some column
      else duplicateColumn? (earlier ++ [column]) rest

/-- The empty table of an entity, whose columns must have different names. -/
def Entity.emptyTable (entity : Entity) : Except TableFault Table :=
  match duplicateColumn? [] entity.columns with
  | some column => .error (.duplicateColumn column.name)
  | none => .ok { name := entity.tableName, columns := entity.columns }

namespace Table

/-- The place of the column with a name. -/
def columnIndex? (table : Table) (name : String) : Option Nat :=
  table.columns.findIdx? (fun column => sameName column.name name)

/-! ## Writing rows -/

/-- The value that a column gets from values written under names: the first under its name. -/
def valueFor (column : Column) (written : List (String × SqlValue)) : SqlValue :=
  match written.find? (fun entry => sameName entry.1 column.name) with
  | some entry => entry.2.kept column.type
  | none => .null

/-- The full row of values written under names. -/
def rowOf (table : Table) (written : List (String × SqlValue)) : List SqlValue :=
  table.columns.map fun column => valueFor column written

/-- Whether a row has the same value as another one in a key column. -/
def repeats (table : Table) (column : Column) (row : List SqlValue) : Bool :=
  match table.columnIndex? column.name with
  | none => false
  | some index =>
      table.rows.any fun other =>
        SqlValue.order? (other[index]?.getD .null) (row[index]?.getD .null) = some .eq

/-- The table with one more row, of values written under names. -/
def insert (table : Table) (written : List (String × SqlValue)) : Except TableFault Table :=
  match written.find? (fun entry => (table.columnIndex? entry.1).isNone) with
  | some entry => .error (.noColumn table.name entry.1)
  | none =>
      let row := table.rowOf written
      let isNull := fun column : Column => column.required && valueFor column written = .null
      match table.columns.find? isNull with
      | some column => .error (.isNull table.name column.name)
      | none =>
          match table.columns.find? (fun column => column.isKey && table.repeats column row) with
          | some column => .error (.repeated table.name column.name)
          | none => .ok { table with rows := table.rows ++ [row] }

/-! ## Reading rows -/

/-- The operand that a quoted name stands for in a row: the value of its column, or its own text
if there is no such column. -/
def operand (table : Table) (row : List SqlValue) (name : String) : Operand :=
  match table.columns.zip row |>.find? (fun cell => sameName cell.1.name name) with
  | some (column, value) => ⟨value, some column.type⟩
  | none => ⟨.text name, none⟩

/-- A row with the names of its columns. -/
def shown (table : Table) (row : List SqlValue) : Row :=
  Json.orderMembers ((table.columns.zip row).map fun cell => (cell.1.name, cell.2.toJson))

/-- Rows sorted by a key; rows with equal values stay in their order. -/
def sorted (table : Table) (key : SortKey) (rows : List (List SqlValue)) : List (List SqlValue) :=
  rows.mergeSort fun first second =>
    let left := (table.operand first key.column).value
    let right := (table.operand second key.column).value
    (if key.ascending then SqlValue.sortOrder left right else SqlValue.sortOrder right left) != .gt

/-- The rows that meet all clauses. -/
def selected (table : Table) (clauses : List Clause) : List (List SqlValue) :=
  table.rows.filter fun row => clauses.all (fun clause => clause.selects (table.operand row))

/-- What is wanted of rows. -/
def answer (table : Table) (rows : List (List SqlValue)) : Wanted → List Row
  | .count => [[("count", .natural rows.length)]]
  | .first => (rows.take 1).map table.shown
  | .listing order limit =>
      let sorted := match order with
        | none => rows
        | some key => table.sorted key rows
      let cut := match limit with
        | none => sorted
        | some bound => sorted.take bound.toNat
      cut.map table.shown

end Table

/-! ## Databases -/

/-- The tables of a record store. -/
structure Database where
  tables : List Table := []
deriving DecidableEq

namespace Database

/-- The table with a name. -/
def table? (database : Database) (name : String) : Option Table :=
  database.tables.find? (fun table => sameName table.name name)

/-- The database with a table for each entity that has none, up to the first entity that cannot
have one. -/
def withTables (database : Database) : List Entity → Database × Option TableFault
  | [] => (database, none)
  | entity :: rest =>
      if (database.table? entity.tableName).isSome then database.withTables rest
      else
        match entity.emptyTable with
        | .error fault => (database, some fault)
        | .ok table => withTables ⟨database.tables ++ [table]⟩ rest

/-- The database with one more row in a table. -/
def insert (database : Database) (name : String) (written : List (String × SqlValue)) :
    Except TableFault Database :=
  match database.table? name with
  | none => .error (.noTable name)
  | some table => do
      let changed ← table.insert written
      return ⟨database.tables.map fun other => if other.name = table.name then changed else other⟩

/-- A complaint about a place in a text, given by its byte offset. -/
def placed (complaint text : String) (offset : Nat) : String :=
  complaint ++ " in " ++ text ++ " at offset " ++ toString offset

/-- The complaint about a text that cannot be read at a word. -/
def syntaxError (word text : String) (offset : Nat) : StoreError :=
  ⟨"syntax_error", placed ("near \"" ++ word ++ "\": syntax error") text offset⟩

/-- The complaint about a table that does not exist. -/
def noSuchTable (name : String) : StoreError :=
  ⟨"no_such_table", (TableFault.noTable name).message⟩

/-- The answer to a selection. -/
def select (database : Database) (selection : Selection) : Except StoreError (List Row) :=
  match selection.frontOfMalformed? with
  | some front => .error (syntaxError "?" selection.text (Text.byteSize front.toList))
  | none =>
      match database.table? selection.table with
      | none => .error (noSuchTable selection.table)
      | some table => .ok (table.answer (table.selected selection.clauses) selection.wanted)

end Database

end Inquiry
