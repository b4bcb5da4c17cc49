import Inquiry.Code.Segment
import Inquiry.Store.Basic
import Inquiry.Text.LowerCase
import Inquiry.Text.Search

/-!
# Diagnosis of store errors

An error of a record store is about a table that does not exist, or it is
another one.  Record stores say so by their codes or in words.  In the first
case the message may name the table: after the words of one kind of store, or
between the first two single quotes.  A qualifier in front of the name and the
quotes around it are left out.
-/

set_option autoImplicit false

namespace Inquiry

/-- The kinds of failure in execution. -/
inductive FailureKind where
  /-- The store does not know the table. -/
  | incorrectTableName
  | other
deriving DecidableEq

/-- The name of a kind of failure. -/
def FailureKind.name : FailureKind → String
  | .incorrectTableName => "IncorrectTableName"
  | .other => "Other"

/-- What is known about an error of the store. -/
structure Diagnosis where
  kind : FailureKind
  /-- The table that the store complained about. -/
  table : Option (List Char)
deriving DecidableEq

namespace Diagnosis

/-- The codes of errors about tables. -/
def tableCodes : List String := ["1103", "1146", "no_such_table"]

/-- The words of errors about tables. -/
def tableWords : List String := ["incorrect table name", "no such table", "unknown table"]

/-- Whether an error is about a table that does not exist. -/
def isAboutTable (error : StoreError) : Bool :=
  let message := Text.lower error.message.toList
  tableCodes.contains error.code || tableWords.any (Text.mentions message) ||
    (Text.mentions message "table" && Text.mentions message "doesn't exist")

/-- The words after which a store names a missing table. -/
def announcement : List Char := "no such table: ".toList

/-- The text without a blank that follows the announcement, where it first has one. -/
def announced? : List Char → Option (List Char)
  | [] => none
  | symbol :: rest =>
      match announcement.isPrefixOf? (symbol :: rest) with
      | some after =>
          let name := after.takeWhile (fun next => !Text.isBlank next)
          if name.isEmpty then announced? rest else some name
      | none => announced? rest

/-- The text between the first two single quotes. -/
def quoted? (message : List Char) : Option (List Char) :=
  match message.dropWhile (· != '\'') with
  | [] => none
  | _ :: rest => (Code.closedBody? '\'' rest).map Prod.fst

/-- The text after the last point. -/
def unqualified (name : List Char) : List Char :=
  (name.reverse.takeWhile (· != '.')).reverse

/-- The table that a message names. -/
def namedTable? (message : List Char) : Option (List Char) :=
  ((announced? message).or (quoted? message)).map fun name =>
    Text.trimWhere (fun symbol => symbol = '`' || symbol = '"') (unqualified name)

end Diagnosis

/-- The diagnosis of an error. -/
def StoreError.diagnosis (error : StoreError) : Diagnosis :=
  if Diagnosis.isAboutTable error then
    { kind := .incorrectTableName, table := Diagnosis.namedTable? error.message.toList }
  else { kind := .other, table := none }

end Inquiry
