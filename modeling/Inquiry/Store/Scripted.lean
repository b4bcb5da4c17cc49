import Inquiry.Code.Segment
import Inquiry.Store.Basic
import Inquiry.Text.Search

/-!
# Stores without records

Two record stores that hold no records.  One replies from a script, whatever
it is asked; the other knows the names of some tables and complains about any
other table that a query mentions between backticks.
-/

set_option autoImplicit false

namespace Inquiry.RecordStore

/-- A store that gives one reply after the other and repeats the last one. -/
def scripted : RecordStore (List Reply) where
  run _ replies :=
    match replies with
    | [] => (⟨.ok [], false, 0⟩, [])
    | [last] => (last, [last])
    | next :: rest => (next, rest)

/-- The table name that ends at the next backtick, and the code after that; the code begins after
the opening backtick. -/
def tickedTable? (code : List Char) : Option (String × List Char) := do
  let (identifier, after) ← Code.closedBody? '`' (← tableMark.isPrefixOf? code)
  return (String.ofList (tableMark ++ identifier), after)

/-- Less code is left after a table name. -/
theorem length_after_tickedTable? {code after : List Char} {table : String}
    (found : tickedTable? code = some (table, after)) : after.length < code.length := by
  obtain ⟨inner, marked, found⟩ := Option.bind_eq_some_iff.1 found
  obtain ⟨⟨identifier, _⟩, closed, same⟩ := Option.bind_eq_some_iff.1 found
  simp only [Option.pure_def, Option.some.injEq, Prod.mk.injEq] at same
  obtain ⟨rfl, rfl⟩ := same
  rw [← Text.append_of_isPrefixOf? marked, ← Code.closedBody?_append closed]
  simp only [List.length_append, List.length_cons]
  omega

/-- The names of tables between backticks, from left to right. -/
def tickedTables (code : List Char) : List String :=
  match code with
  | [] => []
  | symbol :: rest =>
      if symbol = '`' then
        match _found : tickedTable? rest with
        | some (table, after) => table :: tickedTables after
        | none => tickedTables rest
      else tickedTables rest
termination_by code.length
decreasing_by
  · have shorter := length_after_tickedTable? _found
    simp only [List.length_cons]
    omega
  · simp
  · simp

/-- The complaint that a table does not exist. -/
def missingTable (table : String) : StoreError :=
  ⟨"1146", "Table 'erp." ++ table ++ "' doesn't exist"⟩

/-- The reply of a store that knows some tables and no operation. -/
def knownReply (tables : List String) : Call → Except StoreError (List Row)
  | .operation _ => .error (missingTable "tabNothing")
  | .query code =>
      match (tickedTables code.toList).find? (fun table => !tables.contains table) with
      | some table => .error (missingTable table)
      | none => .ok [[("name", .string "SO-0001")]]

/-- A store that knows some tables. -/
def knowing (tables : List String) : RecordStore Unit where
  run call _ := (⟨knownReply tables call, false, 0⟩, ())

end Inquiry.RecordStore
