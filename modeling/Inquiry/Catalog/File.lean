import Inquiry.Catalog.Basic
import Inquiry.Json.Reader

/-!
# Catalog files

A catalog file is a JSON text with a list of entities.  A record in it is an
object whose unknown members are ignored and whose known members must not be
given twice; it may also be an array that gives the known members in order.
Members with a default may be left out.
-/

set_option autoImplicit false

namespace Inquiry

namespace Written

/-! ## Parts of records -/

/-- The text of a string. -/
def string? : Written → Option String
  | .string value => value
  | _ => none

/-- A truth value. -/
def bool? : Written → Option Bool
  | .bool value => some value
  | _ => none

/-- The items of an array. -/
def items? : Written → Option (List Written)
  | .array items => some items
  | _ => none

/-- A value that may be null. -/
def optional? {Value : Type} (read : Written → Option Value) : Written → Option (Option Value)
  | .null => some none
  | value => (read value).map some

/-- A list of values that are all read in the same way. -/
def list? {Value : Type} (read : Written → Option Value) (value : Written) :
    Option (List Value) := do
  let items ← value.items?
  items.mapM read

/-- The known members of an object, each under its first name; a repeated one is a fault. -/
def knownMembers (firstName : String → Option String) :
    List (Option String × Written) → Option (List (String × Written))
  | [] => some []
  | (none, _) :: _ => none
  | (some name, value) :: rest => do
      let others ← knownMembers firstName rest
      match firstName name with
      | none => some others
      | some known =>
          if others.any (fun member => member.1 = known) then none
          else some ((known, value) :: others)

/-- The known members of a record, given by name or in order. -/
def record? (names : List String) : Written → Option (List (String × Written))
  | .object members =>
      knownMembers (fun name => if names.contains name then some name else none) members
  | .array items => if items.length ≤ names.length then some (names.zip items) else none
  | _ => none

/-- The value of a known member. -/
def member? (name : String) (members : List (String × Written)) : Option Written :=
  (members.find? (fun member => member.1 = name)).map Prod.snd

/-- A member that must be there. -/
def required {Value : Type} (name : String) (read : Written → Option Value)
    (members : List (String × Written)) : Option Value := do
  read (← member? name members)

/-- A member that has a default. -/
def withDefault {Value : Type} (name : String) (read : Written → Option Value) (value : Value)
    (members : List (String × Written)) : Option Value :=
  match member? name members with
  | none => some value
  | some written => read written

end Written

/-! ## Fields, entities and files -/

/-- The kind of a field, given by its name, or as an object from its name to null. -/
def FieldType.ofWritten? : Written → Option FieldType
  | .string (some name) => FieldType.ofName? name
  | .object [(some name, .null)] => FieldType.ofName? name
  | _ => none

/-- A field as a catalog file gives it. -/
def Field.ofWritten? (written : Written) : Option Field := do
  let members ← written.record? ["name", "type", "nullable", "label", "options"]
  let name ← Written.required "name" Written.string? members
  let type ← Written.required "type" FieldType.ofWritten? members
  let nullable ← Written.withDefault "nullable" Written.bool? true members
  let label ← Written.withDefault "label" (Written.optional? Written.string?) none members
  let options ← Written.withDefault "options" (Written.optional? Written.string?) none members
  return { name, type, nullable, label, options }

/-- An entity as a catalog file gives it. -/
def Entity.ofWritten? (written : Written) : Option Entity := do
  let members ← written.record? ["name", "fields", "aliases"]
  let name ← Written.required "name" Written.string? members
  let fields ← Written.required "fields" (Written.list? Field.ofWritten?) members
  let aliases ← Written.withDefault "aliases" (Written.list? Written.string?) [] members
  return { name, fields, aliases }

/-- The entities of a catalog file. -/
def Catalog.fileEntities? (text : String) : Option (List Entity) := do
  let members ← (← Written.read text.toList).record? ["entities"]
  Written.required "entities" (Written.list? Entity.ofWritten?) members

/-- The catalog of a catalog file. -/
def Catalog.ofText (text : String) : Except CatalogFault Catalog :=
  match Catalog.fileEntities? text with
  | none => .error .unreadable
  | some entities => ofEntities entities

end Inquiry
