import Inquiry.Text.Blank

/-!
# Tokens of SQL

SQL text is cut into words, quoted names, literals and signs; blanks and
comments between them are dropped.  A comment runs from two hyphens to the end
of the line, or from a slash and a star to the star and slash that close it,
comments inside counting.  A text with an open quote or an open comment, or
with a character that begins no token, has no tokens.
-/

set_option autoImplicit false

namespace Inquiry.Sql

/-- A token, as it is written. -/
inductive Token where
  /-- A word without quotes: a keyword or a name. -/
  | word (text : List Char)
  /-- A name between backticks, the backticks included. -/
  | quotedName (text : List Char)
  /-- A number. -/
  | number (text : List Char)
  /-- A string with its quotes. -/
  | string (text : List Char)
  /-- An operator or a mark of punctuation. -/
  | sign (text : List Char)
deriving DecidableEq

/-- The characters of a token. -/
def Token.characters : Token → List Char
  | .word text => text
  | .quotedName text => text
  | .number text => text
  | .string text => text
  | .sign text => text

/-! ## Classes of characters -/

/-- A character that a word begins with. -/
def startsWord (symbol : Char) : Bool :=
  symbol.isAlpha || symbol = '_' || symbol = '$' || symbol = '@' ||
    (0x80 ≤ symbol.toNat && symbol.toNat ≤ 0xffff)

/-- A character inside a word. -/
def continuesWord (symbol : Char) : Bool := startsWord symbol || symbol.isDigit

/-- A blank between tokens. -/
def separates (symbol : Char) : Bool :=
  symbol = ' ' || symbol = '\t' || symbol = '\n' || symbol = '\r'

/-- The signs of more than one character, longer ones first. -/
def longSigns : List (List Char) :=
  ["<=>", "->>", "<=", ">=", "<>", "!=", "||", "&&", "<<", ">>", "->", "==", "::", ":="].map
    String.toList

/-- The signs of one character. -/
def shortSigns : List Char := "()[],.;+-*/%=<>!&|^~?:".toList

/-! ## Parts of tokens -/

/-- The text up to the closing quote, that quote included, and the text after it.  A doubled quote
does not close; nor does one after a backslash, where backslashes guard. -/
def upToQuote (quote : Char) (guards : Bool) : List Char → Option (List Char × List Char)
  | [] => none
  | [symbol] => if symbol = quote then some ([symbol], []) else none
  | symbol :: next :: rest =>
      if (guards && symbol = '\\') || (symbol = quote && next = quote) then
        (upToQuote quote guards rest).map fun (body, after) => (symbol :: next :: body, after)
      else if symbol = quote then some ([symbol], next :: rest)
      else (upToQuote quote guards (next :: rest)).map fun (body, after) => (symbol :: body, after)

/-- The text after the end of a comment that is `depth` comments deep. -/
def afterComment : (depth : Nat) → List Char → Option (List Char)
  | _, [] => none
  | _, [_] => none
  | depth, symbol :: next :: rest =>
      if symbol = '*' && next = '/' then
        if depth ≤ 1 then some rest else afterComment (depth - 1) rest
      else if symbol = '/' && next = '*' then afterComment (depth + 1) rest
      else afterComment depth (next :: rest)

/-- The exponent at the start of a text, and the text after it. -/
def exponentPart (text : List Char) : List Char × List Char :=
  match text with
  | symbol :: rest =>
      if symbol = 'e' || symbol = 'E' then
        let (sign, digits) := match rest with
          | '+' :: digits => (['+'], digits)
          | '-' :: digits => (['-'], digits)
          | _ => ([], rest)
        let exponent := digits.takeWhile Char.isDigit
        if exponent.isEmpty then ([], text)
        else (symbol :: sign ++ exponent, digits.dropWhile Char.isDigit)
      else ([], text)
  | [] => ([], [])

/-- The number at the start of a text, and the text after it. -/
def numberPart (text : List Char) : List Char × List Char :=
  let whole := text.takeWhile Char.isDigit
  let rest := text.dropWhile Char.isDigit
  let (fraction, rest) := match rest with
    | '.' :: digits => ('.' :: digits.takeWhile Char.isDigit, digits.dropWhile Char.isDigit)
    | _ => ([], rest)
  let (exponent, rest) := exponentPart rest
  (whole ++ fraction ++ exponent, rest)

/-- The sign at the start of a text, and the text after it. -/
def signPart (text : List Char) : Option (List Char × List Char) :=
  match longSigns.findSome? (fun sign => (sign.isPrefixOf? text).map (sign, ·)) with
  | some found => some found
  | none =>
      match text with
      | [] => none
      | symbol :: rest => if shortSigns.contains symbol then some ([symbol], rest) else none

/-! ## Reading tokens -/

/-- The token at the start of a text, and the text after it. -/
def tokenAt (symbol : Char) (rest : List Char) : Option (Token × List Char) :=
  if startsWord symbol then
    some (.word (symbol :: rest.takeWhile continuesWord), rest.dropWhile continuesWord)
  else if symbol.isDigit || (symbol = '.' && rest.head?.any Char.isDigit) then
    let (number, after) := numberPart (symbol :: rest)
    match after with
    | next :: _ =>
        if startsWord next && number.all Char.isDigit then
          some (.word (number ++ after.takeWhile continuesWord), after.dropWhile continuesWord)
        else some (.number number, after)
    | [] => some (.number number, after)
  else if symbol = '`' then
    (upToQuote '`' false rest).map fun (body, after) => (.quotedName (symbol :: body), after)
  else if symbol = '\'' || symbol = '"' then
    (upToQuote symbol true rest).map fun (body, after) => (.string (symbol :: body), after)
  else (signPart (symbol :: rest)).map fun (sign, after) => (.sign sign, after)

/-- The tokens of a text, in at most the given number of steps. -/
def tokensWithin : (steps : Nat) → List Char → Option (List Token)
  | _, [] => some []
  | 0, _ :: _ => none
  | steps + 1, symbol :: rest =>
      if separates symbol then tokensWithin steps rest
      else if symbol = '-' && rest.head? = some '-' then
        tokensWithin steps (rest.dropWhile (· != '\n'))
      else if symbol = '/' && rest.head? = some '*' then
        (afterComment 1 (rest.drop 1)).bind (tokensWithin steps)
      else
        match tokenAt symbol rest with
        | none => none
        | some (token, after) => (tokensWithin steps after).map (token :: ·)

/-- The tokens of a text; every step passes over at least one character. -/
def tokens (text : List Char) : Option (List Token) := tokensWithin text.length text

end Inquiry.Sql
