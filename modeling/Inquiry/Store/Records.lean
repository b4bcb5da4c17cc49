import Inquiry.Store.Answer

/-!
# Stores with records

A record book holds the records of the entities of a catalog, in a database
with one table for each entity.  A record is inserted with what it says of its
fields; the standard fields that it leaves out are filled in, from the clock
and a supply of fresh names where need be, and what is no field is ignored.
As a record store the book carries out operations as selections.  The code of
a query it hands to a runner, which may do with the database what it likes;
the runner that stands ready knows plain SELECTs and leaves the database as it
is.
-/

set_option autoImplicit false

namespace Inquiry

/-- What the world outside supplies for new records. -/
structure Stamps where
  /-- The time at which records are made. -/
  now : String
  /-- Names for records without one, all different. -/
  nameAt : Nat → String

/-- What runs the code of queries: the rows or an error, and the database afterwards. -/
abbrev CodeRunner := Database → String → Except StoreError (List Row) × Database

/-- The runner that knows plain SELECTs. -/
def CodeRunner.plainSelects : CodeRunner := fun database code => (database.answer code, database)

/-- Records of the entities of a catalog. -/
structure RecordBook where
  catalog : Catalog
  database : Database := {}
  /-- How many names have been given to records without one. -/
  issued : Nat := 0
  /-- What runs the code of queries. -/
  runner : CodeRunner := .plainSelects

/-- Why a record cannot be inserted. -/
inductive RecordFault where
  /-- No entity is meant by this text. -/
  | unknownEntity (doctype : String)
  /-- The table does not take the row. -/
  | table (fault : TableFault)
deriving DecidableEq

/-- The wording of a fault with records. -/
def RecordFault.message : RecordFault → String
  | .unknownEntity doctype => "Unknown entity '" ++ doctype ++ "'"
  | .table fault => fault.message

namespace RecordBook

/-! ## Opening -/

/-- The book with the tables that its catalog needs, and what prevents one of them if anything
does. -/
def opened (book : RecordBook) : RecordBook × Option RecordFault :=
  let (database, fault) := book.database.withTables book.catalog.entities
  ({ book with database }, fault.map .table)

/-! ## Inserting -/

/-- The standard fields beside the name, with the values that they get by themselves. -/
def standardValues (now : String) : List (String × Json) :=
  [("docstatus", .integer 0), ("creation", .string now), ("modified", .string now),
    ("owner", .string "Administrator"), ("modified_by", .string "Administrator")]

/-- What is written into the row of a record. -/
def written (entity : Entity) (now name : String) (record : Row) : List (String × SqlValue) :=
  ("name", .text name) ::
    (standardValues now).map (fun field =>
      (field.1, SqlValue.ofJson ((Json.lookUp field.1 record).getD field.2))) ++
    (record.filter fun member => !isStandardField member.1 && entity.hasField member.1).map
      (fun member => (member.1, SqlValue.ofJson member.2))

/-- The book with one more record, and the name of the record. -/
def insert (stamps : Stamps) (book : RecordBook) (doctype : String) (record : Row) :
    Except RecordFault (String × RecordBook) := do
  let some entity := book.catalog.entity? doctype | throw (.unknownEntity doctype)
  let given := (Json.lookUp "name" record).bind Json.string?
  let name := given.getD (stamps.nameAt book.issued)
  let issued := if given.isSome then book.issued else book.issued + 1
  let database ← (book.database.insert entity.tableName
    (written entity stamps.now name record)).mapError .table
  return (name, { book with database, issued })

/-! ## Records to begin with -/

/-- A record of a customer. -/
def customer (name title territory : String) : String × Row :=
  ("Customer", [("customer_name", .string title), ("docstatus", .integer 0),
    ("name", .string name), ("territory", .string territory)])

/-- A record of an order; `party` is the field that names the other side. -/
def order (doctype party name side date status : String) (total : Double) (docstatus : Int) :
    String × Row :=
  (doctype, [("docstatus", .integer docstatus), ("grand_total", .double total),
    ("name", .string name), (party, .string side), ("status", .string status),
    ("transaction_date", .string date)])

/-- Some customers, suppliers and orders for a first try. -/
def demonstration : List (String × Row) :=
  [customer "CUST-0001" "Acme Corp" "Europe",
    customer "CUST-0002" "Globex" "Asia",
    customer "CUST-0003" "Initech" "Europe",
    ("Supplier", [("name", .string "SUP-0001"), ("supplier_name", .string "Parts Ltd")]),
    order "Sales Order" "customer" "SO-0001" "CUST-0001" "2026-09-20" "To Deliver"
      (Double.ofNat 1200) 1,
    order "Sales Order" "customer" "SO-0002" "CUST-0002" "2026-10-02" "Draft"
      (Double.ofNat 450) 0,
    order "Purchase Order" "supplier" "PO-0001" "SUP-0001" "2026-10-01" "To Receive"
      (Double.ofNat 800) 1,
    order "Purchase Order" "supplier" "PO-0002" "SUP-0001" "2026-10-05" "Draft"
      (Double.ofDecimal false 955 (-1)) 0,
    order "Purchase Order" "supplier" "PO-0003" "SUP-0001" "2026-08-11" "Cancelled"
      (Double.ofNat 300) 2]

/-- The book with those records whose entity is known, up to the first that cannot be inserted,
and how many they are. -/
def insertKnown (stamps : Stamps) (book : RecordBook) (inserted : Nat) :
    List (String × Row) → Except RecordFault Nat × RecordBook
  | [] => (.ok inserted, book)
  | (doctype, record) :: rest =>
      if (book.catalog.entity? doctype).isNone then insertKnown stamps book inserted rest
      else
        match book.insert stamps doctype record with
        | .error fault => (.error fault, book)
        | .ok (_, book) => insertKnown stamps book (inserted + 1) rest

/-- The book with the demonstration records. -/
def seed (stamps : Stamps) (book : RecordBook) : Except RecordFault Nat × RecordBook :=
  insertKnown stamps book 0 demonstration

/-! ## Answering -/

/-- The complaint that a record does not exist. -/
def notFound (doctype name : String) : StoreError :=
  ⟨"not_found", doctype ++ " '" ++ name ++ "' not found"⟩

/-- The rows of an operation; the one record that is fetched must exist. -/
def operationRows (book : RecordBook) (operation : Operation) : Except StoreError (List Row) := do
  let selection ← (Selection.ofOperation book.catalog operation).mapError (·.error)
  let rows ← book.database.select selection
  if operation.kind? = some .details && rows.isEmpty then
    throw (notFound (operation.parameters.doctype.getD "") (operation.parameters.name.getD ""))
  else return rows

/-- The outcome of a call. -/
def outcome (book : RecordBook) : Call → Except StoreError (List Row)
  | .query code => (book.runner book.database code).1
  | .operation operation => book.operationRows operation

/-- The book after a call; an operation leaves it as it is. -/
def after (book : RecordBook) : Call → RecordBook
  | .query code => { book with database := (book.runner book.database code).2 }
  | .operation _ => book

end RecordBook

/-- Record books as record stores. -/
def RecordStore.book : RecordStore RecordBook where
  run call book := ({ outcome := book.outcome call }, book.after call)

end Inquiry
