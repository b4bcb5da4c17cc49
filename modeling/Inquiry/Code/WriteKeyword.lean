import Inquiry.Code.Segment
import Inquiry.Text.WordSymbol

/-!
# Keywords that write

Code that cannot be read as SQL is still refused when a word of a statement
that writes stands in it outside string literals.  A word is recognised in any
case, where two letters have a third form: the long s and the Kelvin sign.
-/

set_option autoImplicit false

namespace Inquiry.Code

open Inquiry.Text

/-- The words that write, in lower case. -/
def writeWords : List (List Char) :=
  ["delete", "drop", "truncate", "update", "insert", "alter", "create", "grant", "revoke",
    "commit", "rollback"].map String.toList

/-- Whether a character is a form of a small letter. -/
def isFormOf (letter symbol : Char) : Bool :=
  symbol.toLower = letter || (letter = 's' && symbol = Char.ofNat 0x17f) ||
    (letter = 'k' && symbol = Char.ofNat 0x212a)

/-- A word at the start of a text, in any case: as it is written, and the text after it. -/
def wordAt? : (word text : List Char) → Option (List Char × List Char)
  | [], text => some ([], text)
  | _ :: _, [] => none
  | letter :: word, symbol :: rest =>
      if isFormOf letter symbol then
        (wordAt? word rest).map fun (written, after) => (symbol :: written, after)
      else none

/-- The words replace and into with blanks between, as they are written, and the text after. -/
def replaceInto? (text : List Char) : Option (List Char × List Char) := do
  let (first, rest) ← wordAt? "replace".toList text
  let blanks := rest.takeWhile isBlank
  if blanks.isEmpty then none
  else
    let (second, after) ← wordAt? "into".toList (rest.dropWhile isBlank)
    return (first ++ blanks ++ second, after)

/-- What is written counts only if the word ends there. -/
def endingWord : Option (List Char × List Char) → Option (List Char)
  | none => none
  | some (written, after) => if startsWordAfter after.head? then some written else none

/-- The word that writes at the start of a text, as it is written. -/
def writeWordAt? (text : List Char) : Option (List Char) :=
  (writeWords.findSome? fun word => endingWord (wordAt? word text)).or
    (endingWord (replaceInto? text))

/-- The first word that writes in the rest of a text, `before` being the character in front. -/
def writeWordFrom? : (before : Option Char) → List Char → Option (List Char)
  | _, [] => none
  | before, symbol :: rest =>
      let here := if startsWordAfter before then writeWordAt? (symbol :: rest) else none
      match here with
      | some written => some written
      | none => writeWordFrom? (some symbol) rest

/-- The first word that writes outside the string literals of code. -/
def writeKeyword? (code : List Char) : Option String :=
  (writeWordFrom? none (withoutLiterals code)).map String.ofList

end Inquiry.Code
