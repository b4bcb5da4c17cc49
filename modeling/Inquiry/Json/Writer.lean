import Inquiry.Json.Basic
import Inquiry.Number.Decimal

/-!
# Writing JSON values

The compact text of a value has no blanks between its parts.  In a string the
double quote, the backslash and the control characters are escaped and every
other character stands for itself.
-/

set_option autoImplicit false

namespace Inquiry

/-- Doubles are written positionally from 0.00001 up to below ten to the sixteenth, always with a
point, and with an exponent elsewhere. -/
def Json.doubleLayout : Decimal.Layout :=
  { least := some (-4), greatest := some 16, wholePoint := true, exponentPoint := false,
    exponentWidth := 1 }

/-- The text of a number; a double that is not finite has none and is written as null. -/
def Number.text : Number → List Char
  | .integer (.ofNat value) => Decimal.digitsOf value
  | .integer (.negSucc value) => '-' :: Decimal.digitsOf (value + 1)
  | .double value =>
      if value.isFinite then Json.doubleLayout.writeShortest value else "null".toList

namespace Json

/-- The four hexadecimal digits of a control character. -/
def controlDigits (code : Nat) : List Char :=
  let digits := Nat.toDigits 16 code
  List.replicate (4 - digits.length) '0' ++ digits

/-- One character of a string. -/
def escapeSymbol (symbol : Char) : List Char :=
  match symbol with
  | '"' => ['\\', '"']
  | '\\' => ['\\', '\\']
  | '\n' => ['\\', 'n']
  | '\r' => ['\\', 'r']
  | '\t' => ['\\', 't']
  | '\x08' => ['\\', 'b']
  | '\x0c' => ['\\', 'f']
  | _ =>
      if symbol.toNat < 0x20 then ['\\', 'u'] ++ controlDigits symbol.toNat else [symbol]

/-- A string with its quotes. -/
def stringText (value : String) : List Char :=
  '"' :: value.toList.flatMap escapeSymbol ++ ['"']

/-- Texts with commas between them. -/
def withCommas (separator : List Char) : List (List Char) → List Char
  | [] => []
  | [text] => text
  | text :: rest => text ++ separator ++ withCommas separator rest

/-- The opening and closing characters of an object. -/
def braces (body : List Char) : List Char := Char.ofNat 0x7b :: body ++ [Char.ofNat 0x7d]

mutual
/-- The compact text of a value. -/
def characters : Json → List Char
  | .null => "null".toList
  | .bool true => "true".toList
  | .bool false => "false".toList
  | .number value => value.text
  | .string value => stringText value
  | .array items => '[' :: withCommas [','] (itemTexts items) ++ [']']
  | .object members => braces (withCommas [','] (memberTexts members))

/-- The compact texts of the items of an array. -/
def itemTexts : List Json → List (List Char)
  | [] => []
  | item :: rest => characters item :: itemTexts rest

/-- The compact texts of the members of an object. -/
def memberTexts : List (String × Json) → List (List Char)
  | [] => []
  | (name, value) :: rest => (stringText name ++ ':' :: characters value) :: memberTexts rest
end

/-- The compact text of a value as a string. -/
def text (value : Json) : String := String.ofList value.characters

/-! ## Indented texts -/

/-- A line end followed by two blanks for each level. -/
def lineAt (level : Nat) : List Char := '\n' :: List.replicate (2 * level) ' '

/-- Parts between two brackets, each on a line of its own. -/
def indented (opening closing : Char) (level : Nat) (parts : List (List Char)) : List Char :=
  if parts.isEmpty then [opening, closing]
  else
    opening :: lineAt (level + 1) ++ withCommas (',' :: lineAt (level + 1)) parts ++
      lineAt level ++ [closing]

mutual
/-- The text of a value with every item and member on its own line. -/
def indentedCharacters (level : Nat) : Json → List Char
  | .array items => indented '[' ']' level (indentedItems (level + 1) items)
  | .object members =>
      indented (Char.ofNat 0x7b) (Char.ofNat 0x7d) level (indentedMembers (level + 1) members)
  | .null => "null".toList
  | .bool value => characters (.bool value)
  | .number value => value.text
  | .string value => stringText value

/-- The indented texts of the items of an array. -/
def indentedItems (level : Nat) : List Json → List (List Char)
  | [] => []
  | item :: rest => indentedCharacters level item :: indentedItems level rest

/-- The indented texts of the members of an object. -/
def indentedMembers (level : Nat) : List (String × Json) → List (List Char)
  | [] => []
  | (name, value) :: rest =>
      (stringText name ++ ':' :: ' ' :: indentedCharacters level value) ::
        indentedMembers level rest
end

/-- The indented text of a value as a string. -/
def indentedText (value : Json) : String := String.ofList (value.indentedCharacters 0)

end Json

end Inquiry
