import Inquiry.Text.Blank
import Inquiry.Text.Search

/-!
# The JSON object in an answer

A model may wrap its JSON object in prose or in a code fence.  A fence is three
backticks, perhaps the word json, then the object, then three backticks, with
blanks between; the object ends at the first closing brace that the closing
fence follows.  Without a fence the object is the first stretch from an opening
brace to the brace that closes it, braces inside strings not counting.
-/

set_option autoImplicit false

namespace Inquiry.Extraction

open Inquiry.Text

/-- The opening brace of an object. -/
def openBrace : Char := Char.ofNat 0x7b

/-- The closing brace of an object. -/
def closeBrace : Char := Char.ofNat 0x7d

/-- The mark of a code fence. -/
def fence : List Char := ['`', '`', '`']

/-! ## Inside a fence -/

/-- Whether a fence follows, after blanks. -/
def closesFence (text : List Char) : Bool := fence.isPrefixOf (trimStart text)

/-- The text up to the first closing brace that a fence follows, that brace included. -/
def upToFence? : List Char → Option (List Char)
  | [] => none
  | symbol :: rest =>
      if symbol = closeBrace && closesFence rest then some [symbol]
      else (upToFence? rest).map (symbol :: ·)

/-- A text without the word json at its start. -/
def withoutLanguage (text : List Char) : List Char :=
  (['j', 's', 'o', 'n'].isPrefixOf? text).getD text

/-- The object of a fence that opens at the start of the text. -/
def fencedHere? (text : List Char) : Option (List Char) :=
  match fence.isPrefixOf? text with
  | none => none
  | some rest =>
      match trimStart (withoutLanguage rest) with
      | [] => none
      | symbol :: rest =>
          if symbol = openBrace then (upToFence? rest).map (symbol :: ·) else none

/-- The object of the first fence that holds one. -/
def fenced? : List Char → Option (List Char)
  | [] => none
  | symbol :: rest =>
      match fencedHere? (symbol :: rest) with
      | some found => some found
      | none => fenced? rest

/-! ## Without a fence -/

/-- Where a reader of an object stands. -/
inductive Place where
  /-- Outside strings. -/
  | outside
  /-- Inside a string. -/
  | inside
  /-- Inside a string, after a backslash. -/
  | escaped
deriving DecidableEq

/-- The text up to the brace that closes `depth` open objects, that brace included. -/
def upToBalance? : (depth : Nat) → Place → List Char → Option (List Char)
  | _, _, [] => none
  | depth, .escaped, symbol :: rest => (upToBalance? depth .inside rest).map (symbol :: ·)
  | depth, .inside, symbol :: rest =>
      let next : Place :=
        if symbol = '\\' then .escaped else if symbol = '"' then .outside else .inside
      (upToBalance? depth next rest).map (symbol :: ·)
  | depth, .outside, symbol :: rest =>
      if symbol = '"' then (upToBalance? depth .inside rest).map (symbol :: ·)
      else if symbol = openBrace then (upToBalance? (depth + 1) .outside rest).map (symbol :: ·)
      else if symbol = closeBrace then
        if depth ≤ 1 then some [symbol]
        else (upToBalance? (depth - 1) .outside rest).map (symbol :: ·)
      else (upToBalance? depth .outside rest).map (symbol :: ·)

/-- The object at the first opening brace. -/
def balanced? (text : List Char) : Option (List Char) :=
  upToBalance? 0 .outside (text.dropWhile (· != openBrace))

/-- The JSON object in an answer. -/
def object? (answer : List Char) : Option (List Char) :=
  match fenced? answer with
  | some found => some found
  | none => balanced? answer

end Inquiry.Extraction
