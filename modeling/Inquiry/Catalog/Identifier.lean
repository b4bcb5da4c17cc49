import Inquiry.Text.Blank
import Inquiry.Text.LowerCase

/-!
# Identifiers of record types

A record type has a name for people, such as Sales Order, and a table in the
record store.  The table is named by the mark "tab" followed by the name
without its blanks.  Texts that mean the same type are recognised by a key
that ignores case, blanks, underscores and hyphens.
-/

set_option autoImplicit false

namespace Inquiry

/-- The mark that the name of every table begins with. -/
def tableMark : List Char := ['t', 'a', 'b']

/-- The name of the table of a record type. -/
def tableNameOf (name : String) : String :=
  String.ofList (tableMark ++ Text.withoutBlanks name.toList)

/-- An identifier with the mark of tables in front, otherwise unchanged. -/
def markedTable (identifier : String) : String :=
  String.ofList (tableMark ++ identifier.toList)

/-- A table name between backticks, as it is written in code. -/
def quotedTable (table : String) : String :=
  String.ofList ('`' :: table.toList ++ ['`'])

/-- Whether a character counts in the key of an identifier. -/
def countsInKey (symbol : Char) : Bool :=
  !Text.isBlank symbol && symbol != '_' && symbol != '-'

/-- The key of an identifier: what is left without blanks, underscores and hyphens, each character
in lower case on its own. -/
def keyOf (identifier : List Char) : List Char :=
  Text.lowerEach (identifier.filter countsInKey)

/-- The key of an identifier given as a string. -/
def identifierKey (identifier : String) : List Char := keyOf identifier.toList

/-- The key of two texts together is their keys together. -/
@[simp] theorem keyOf_append (first second : List Char) :
    keyOf (first ++ second) = keyOf first ++ keyOf second := by
  simp [keyOf, Text.lowerEach]

end Inquiry
