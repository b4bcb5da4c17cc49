import Inquiry.Number.Double
import Inquiry.Number.Word

/-!
# JSON values

A number is an integer or a double.  An object holds its members in the order
of their names, each name once; `Json.ofMembers` brings any list of members
into that form, the last member of a name winning.
-/

set_option autoImplicit false

namespace Inquiry

/-- A JSON number: an integer, or a double for everything that is not one. -/
inductive Number where
  | integer (value : Int)
  | double (value : Double)
deriving DecidableEq

namespace Number

/-- The integer of a number, when it is one of 64 bits with a sign. -/
def integer? : Number → Option Int
  | .integer value =>
      if Word.fitsSigned value then some value else none
  | .double _ => none

/-- Whether a number is an integer of 64 bits, with or without a sign. -/
def isInteger : Number → Bool
  | .integer value => -Word.signedLimit ≤ value && value < Word.limit
  | .double _ => false

/-- The double nearest to a number. -/
def toDouble : Number → Double
  | .integer value => Double.ofInt value
  | .double value => value

end Number

/-- A JSON value. -/
inductive Json where
  | null
  | bool (value : Bool)
  | number (value : Number)
  | string (value : String)
  | array (items : List Json)
  | object (members : List (String × Json))

namespace Json

/-- An integer as a value. -/
def integer (value : Int) : Json := .number (.integer value)

/-- A natural number as a value. -/
def natural (value : Nat) : Json := .number (.integer value)

/-- A double as a value. -/
def double (value : Double) : Json := .number (.double value)

/-! ## Objects -/

/-- A member put into members that are in order; an earlier member of its name is replaced. -/
def putMember (name : String) (value : Json) : List (String × Json) → List (String × Json)
  | [] => [(name, value)]
  | (other, old) :: rest =>
      if name < other then (name, value) :: (other, old) :: rest
      else if name = other then (name, value) :: rest
      else (other, old) :: putMember name value rest

/-- Members in order, the last member of a name winning. -/
def orderMembers (members : List (String × Json)) : List (String × Json) :=
  members.foldl (fun ordered member => putMember member.1 member.2 ordered) []

/-- The object of any list of members. -/
def ofMembers (members : List (String × Json)) : Json := .object (orderMembers members)

/-- The value of a name among members. -/
def lookUp (name : String) (members : List (String × Json)) : Option Json :=
  (members.find? (fun member => member.1 = name)).map Prod.snd

/-- The value of a member, if the value is an object that has it. -/
def member? (name : String) : Json → Option Json
  | .object members => lookUp name members
  | _ => none

/-! ## Views -/

/-- The text of a string. -/
def string? : Json → Option String
  | .string value => some value
  | _ => none

/-- The items of an array. -/
def array? : Json → Option (List Json)
  | .array items => some items
  | _ => none

/-- Whether the value is null. -/
def isNull : Json → Bool
  | .null => true
  | _ => false

/-- Whether the value is neither an array nor an object. -/
def isScalar : Json → Bool
  | .array _ => false
  | .object _ => false
  | _ => true

end Json

end Inquiry
