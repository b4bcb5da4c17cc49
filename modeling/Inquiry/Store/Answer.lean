import Inquiry.Store.Statement

/-!
# Answers to statements

A statement is answered from its table: the rows that meet its condition,
sorted and cut, with what the statement shows of each; or, where it counts, a
single row.  The table is looked for first, then the columns in the order in
which the statement mentions them.  A database that reads more than plain
SELECTs may stand in for this (`CodeRunner`).
-/

set_option autoImplicit false

namespace Inquiry

/-! ## Operands -/

/-- An operand bent for a comparison with a column or a value of some type. -/
def Operand.bent (operand : Operand) (other : Option ColumnType) : SqlValue :=
  match operand.type, other with
  | none, _ => operand.value.compared other
  | some .text, some .integer => operand.value.compared other
  | some .text, some .real => operand.value.compared other
  | _, _ => operand.value

/-- Whether two operands are equal, as a value. -/
def Operand.equal (left right : Operand) : SqlValue :=
  match SqlValue.order? (left.bent right.type) (right.bent left.type) with
  | none => .null
  | some order => .integer (if order = .eq then 1 else 0)

/-- Whether a value counts as true. -/
def SqlValue.isTrue (value : SqlValue) : Bool :=
  match value with
  | .null => false
  | .text content => ((number? content).getD (.integer 0)).units ≠ 0
  | number => number.units ≠ 0

namespace Term

/-- The first column of a term that a table does not have, with its offset. -/
def unknownColumn? (table : Table) : Term → Option (String × Nat)
  | .column name offset doubtful =>
      if doubtful || (table.columnIndex? name).isSome then none else some (name, offset)
  | .literal _ => none
  | .count => none
  | .equal left right => (left.unknownColumn? table).or (right.unknownColumn? table)

/-- Whether a term counts rows. -/
def counts : Term → Bool
  | .count => true
  | .equal left right => left.counts || right.counts
  | _ => false

/-- What a term stands for in a row, `total` rows being counted. -/
def operand (table : Table) (total : Nat) (row : List SqlValue) : Term → Operand
  | .column name _ _ => table.operand row name
  | .literal value => ⟨value, none⟩
  | .count => ⟨.integer total, none⟩
  | .equal left right =>
      ⟨(left.operand table total row).equal (right.operand table total row), none⟩

/-- The name under which a term is shown when no label is given. -/
def defaultLabel (table : Table) (written : String) : Term → String
  | .column name _ _ =>
      match table.columns.find? (fun declared => sameName declared.name name) with
      | some declared => declared.name
      | none => written
  | _ => written

end Term

namespace Shown

/-- The first column of what is shown that a table does not have. -/
def unknownColumn? (table : Table) : Shown → Option (String × Nat)
  | .everything => none
  | .term shown _ _ => shown.unknownColumn? table

/-- Whether what is shown counts rows. -/
def counts : Shown → Bool
  | .everything => false
  | .term shown _ _ => shown.counts

/-- What is shown of a row. -/
def members (table : Table) (total : Nat) (row : List SqlValue) : Shown → Row
  | .everything => table.shown row
  | .term shown label written =>
      [(label.getD (shown.defaultLabel table written),
        (shown.operand table total row).value.toJson)]

end Shown

namespace Statement

/-! ## Rows -/

/-- The first column of a statement that a table does not have. -/
def unknownColumn? (statement : Statement) (table : Table) : Option (String × Nat) :=
  (statement.shown.findSome? (·.unknownColumn? table)).or <|
    (statement.condition.bind (·.unknownColumn? table)).or <|
      statement.order.bind fun order => order.1.unknownColumn? table

/-- The rows of a table that meet the condition of a statement. -/
def selected (statement : Statement) (table : Table) : List (List SqlValue) :=
  match statement.condition with
  | none => table.rows
  | some condition =>
      table.rows.filter fun row => (condition.operand table 0 row).value.isTrue

/-- Rows in the order of a statement. -/
def sorted (statement : Statement) (table : Table) (rows : List (List SqlValue)) :
    List (List SqlValue) :=
  match statement.order with
  | none => rows
  | some (key, ascending) =>
      rows.mergeSort fun first second =>
        let left := (key.operand table 0 first).value
        let right := (key.operand table 0 second).value
        (if ascending then SqlValue.sortOrder left right else SqlValue.sortOrder right left) != .gt

/-- The rows that a statement shows of a table. -/
def rows (statement : Statement) (table : Table) : List Row :=
  let selected := statement.selected table
  let shownOf := fun row : List SqlValue =>
    Json.orderMembers (statement.shown.flatMap (·.members table selected.length row))
  let shown :=
    if statement.shown.any (·.counts) then [shownOf (selected.headD [])]
    else (statement.sorted table selected).map shownOf
  match statement.limit with
  | none => shown
  | some limit => shown.take limit

/-- The table of a statement that reads from none: one row without columns. -/
def noTable : Table := { name := "", columns := [], rows := [[]] }

/-- Whether a statement shows all columns. -/
def showsEverything (statement : Statement) : Bool :=
  statement.shown.any fun
    | .everything => true
    | .term _ _ _ => false

end Statement

namespace Database

/-! ## Answers -/

/-- A fault in reading a text, as the error of the store. -/
def statementError (text : String) : StatementFault → StoreError
  | .incomplete => ⟨"sqlite_1", "incomplete input"⟩
  | .near word =>
      let written := String.ofList word.written
      if word.kind = .broken then
        ⟨"sqlite_error", placed ("unrecognized token: \"" ++ written ++ "\"") text word.offset⟩
      else syntaxError written text word.offset

/-- The table that a statement reads from. -/
def source (database : Database) (statement : Statement) : Except StoreError Table :=
  match statement.table with
  | none =>
      if statement.showsEverything then .error ⟨"sqlite_1", "no tables specified"⟩
      else .ok Statement.noTable
  | some name =>
      match database.table? name with
      | none => .error (noSuchTable name)
      | some table => .ok table

/-- The answer to a text. -/
def answer (database : Database) (text : String) : Except StoreError (List Row) := do
  let statement ← (Statement.ofText text).mapError (statementError text)
  let table ← database.source statement
  match statement.unknownColumn? table with
  | some (name, offset) =>
      throw ⟨"no_such_column", placed ("no such column: " ++ name) text offset⟩
  | none => return statement.rows table

end Database

end Inquiry
