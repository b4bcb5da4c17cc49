import Inquiry.Store.Table

/-!
# Statements that the record store reads

Generated code reaches the record store as text.  The runner that stands ready
for it reads a plain SELECT of columns, counts and literals from at most one
table, with at most one comparison, one order and one limit.  What it cannot
read it reports at the word where reading stopped, given by its byte offset, or
as incomplete when the text ended too early.
-/

set_option autoImplicit false

namespace Inquiry

/-! ## Words of a statement -/

/-- What a word of a statement is. -/
inductive WordKind where
  /-- A word without quotes. -/
  | plain
  /-- A name between backticks or brackets. -/
  | name (text : String)
  /-- A name between double quotes, which is a string where no such name is known. -/
  | doubtful (text : String)
  /-- A string. -/
  | string (text : String)
  /-- A number. -/
  | number
  /-- An operator or a mark of punctuation. -/
  | sign
  /-- Something that is no word, such as an open string. -/
  | broken
deriving DecidableEq

/-- A word of a statement, as it is written. -/
structure StatementWord where
  kind : WordKind
  written : List Char
  /-- The byte offset at which the word begins. -/
  offset : Nat
deriving DecidableEq

namespace StatementWord

/-- A character that a plain word begins with. -/
def starts (symbol : Char) : Bool :=
  symbol.isAlpha || symbol = '_' || 0x80 ≤ symbol.toNat

/-- A character inside a plain word. -/
def continues (symbol : Char) : Bool := starts symbol || symbol.isDigit || symbol = '$'

/-- What stands up to a closing quote, doubled quotes standing for one, with the number of
characters that this takes; none if the quote is not closed. -/
def quotedBody? (quote : Char) : List Char → Option (List Char × Nat)
  | [] => none
  | [symbol] => if symbol = quote then some ([], 1) else none
  | symbol :: next :: rest =>
      if symbol = quote then
        if next = quote then
          (quotedBody? quote rest).map fun (body, count) => (quote :: body, count + 2)
        else some ([], 1)
      else (quotedBody? quote (next :: rest)).map fun (body, count) => (symbol :: body, count + 1)

/-- The kind of a quoted word. -/
def quotedKind (quote : Char) (body : List Char) : WordKind :=
  if quote = '\'' then .string (String.ofList body)
  else if quote = '"' then .doubtful (String.ofList body)
  else .name (String.ofList body)

/-- The kind of the word at the start of a text, and how many characters it has. -/
def wordAt (symbol : Char) (rest : List Char) : WordKind × Nat :=
  if starts symbol then (.plain, 1 + (rest.takeWhile continues).length)
  else if symbol.isDigit then
    (.number, 1 + (rest.takeWhile (fun digit => digit.isDigit || digit = '.')).length)
  else if symbol = '\'' || symbol = '"' || symbol = '`' || symbol = '[' then
    match quotedBody? (if symbol = '[' then ']' else symbol) rest with
    | some (body, count) => (quotedKind symbol body, count + 1)
    | none => (.broken, rest.length + 1)
  else if symbol = '=' && rest.head? = some '=' then (.sign, 2)
  else if "()*,;=+-.<>!/%|&?".toList.contains symbol then (.sign, 1)
  else (.broken, 1)

/-- The words of the rest of a text, in at most the given number of steps. -/
def wordsWithin : (steps offset : Nat) → List Char → List StatementWord
  | _, _, [] => []
  | 0, _, _ :: _ => []
  | steps + 1, offset, symbol :: rest =>
      if SqlValue.isNumberBlank symbol then wordsWithin steps (offset + 1) rest
      else
        let (kind, count) := wordAt symbol rest
        let written := (symbol :: rest).take count
        ⟨kind, written, offset⟩ ::
          wordsWithin steps (offset + Text.byteSize written) ((symbol :: rest).drop count)

/-- The words of a text. -/
def ofText (text : List Char) : List StatementWord := wordsWithin text.length 0 text

/-- Whether a word is a keyword, in any case. -/
def isKeyword (word : StatementWord) (keyword : String) : Bool :=
  word.kind = .plain && word.written.map Char.toUpper = keyword.toList

/-- Whether a word is a sign. -/
def isSign (word : StatementWord) (sign : String) : Bool :=
  word.kind = .sign && word.written = sign.toList

/-- The keywords that are never names. -/
def reserved : List String :=
  ["SELECT", "FROM", "WHERE", "ORDER", "LIMIT", "AS", "GROUP", "HAVING", "UNION", "JOIN", "ON",
    "AND", "OR", "NOT", "IN", "IS", "NULL", "VALUES", "INSERT", "UPDATE", "DELETE", "CREATE",
    "DROP", "SET", "DISTINCT", "CASE", "WHEN", "THEN", "ELSE", "EXISTS", "BETWEEN", "INTO"]

/-- The name that a word is. -/
def name? (word : StatementWord) : Option String :=
  match word.kind with
  | .plain =>
      if reserved.any word.isKeyword then none else some (String.ofList word.written)
  | .name text => some text
  | .doubtful text => some text
  | _ => none

end StatementWord

/-! ## Statements -/

/-- A term of a statement. -/
inductive Term where
  /-- A column; a doubtful one is a string where it is unknown. -/
  | column (name : String) (offset : Nat) (doubtful : Bool)
  | literal (value : SqlValue)
  /-- How many rows there are. -/
  | count
  | equal (left right : Term)

/-- What a statement shows. -/
inductive Shown where
  /-- All columns. -/
  | everything
  /-- A term, under a label if one is given, and as it is written. -/
  | term (term : Term) (label : Option String) (written : String)

/-- A statement that reads. -/
structure Statement where
  shown : List Shown
  table : Option String := none
  condition : Option Term := none
  /-- The term to sort by, and whether from the least. -/
  order : Option (Term × Bool) := none
  limit : Option Nat := none

/-- Where a statement cannot be read. -/
inductive StatementFault where
  /-- At a word. -/
  | near (word : StatementWord)
  /-- At its end. -/
  | incomplete

namespace Statement

/-! ## Reading -/

/-- Reading a part of a statement from the words that are left. -/
abbrev Reading := StateT (List StatementWord) (Except StatementFault)

/-- The fault of reading at the words that are left. -/
def stuck {Part : Type} : Reading Part := do
  match ← get with
  | [] => throw .incomplete
  | word :: _ => throw (.near word)

/-- The next word, if it passes a test, and what it means. -/
def next {Part : Type} (meaning : StatementWord → Option Part) : Reading Part := do
  match ← get with
  | [] => stuck
  | word :: rest =>
      match meaning word with
      | some part =>
          set rest
          return part
      | none => stuck

/-- Whether the next word passes a test; if so it is read. -/
def skips (test : StatementWord → Bool) : Reading Bool := do
  match ← get with
  | [] => return false
  | word :: rest =>
      if test word then
        set rest
        return true
      else return false

/-- A word that must come next. -/
def expects (test : StatementWord → Bool) : Reading Unit :=
  next fun word => if test word then some () else none

/-- A name that must come next. -/
def name : Reading String := next (·.name?)

/-- The literal or the column that a word is. -/
def plainTerm? (word : StatementWord) : Option Term :=
  match word.kind with
  | .number =>
      let text := String.ofList word.written
      some (.literal ((SqlValue.number? text).getD (.text text)))
  | .string text => some (.literal (.text text))
  | .doubtful text => some (.column text word.offset true)
  | _ =>
      if word.isKeyword "NULL" then some (.literal .null)
      else word.name?.map (.column · word.offset false)

/-- Whether the words that are left begin with the count of rows. -/
def beginsCount : List StatementWord → Bool
  | word :: mark :: _ => word.isKeyword "COUNT" && mark.isSign "("
  | _ => false

mutual
/-- A term, in at most the given number of steps: one or two sides of an equation. -/
def term : (steps : Nat) → Reading Term
  | 0 => stuck
  | steps + 1 => do
      let left ← side steps
      if ← skips (fun word => word.isSign "=" || word.isSign "==") then
        return .equal left (← side steps)
      else return left

/-- One side of an equation. -/
def side : (steps : Nat) → Reading Term
  | 0 => stuck
  | steps + 1 => do
      if ← skips (·.isSign "(") then
        let inner ← term steps
        expects (·.isSign ")")
        return inner
      else if beginsCount (← get) then
        expects (·.isKeyword "COUNT")
        expects (·.isSign "(")
        expects (·.isSign "*")
        expects (·.isSign ")")
        return .count
      else next plainTerm?
end

/-- A term; no term takes more than two steps for a word. -/
def wholeTerm : Reading Term := do
  term (2 * (← get).length + 2)

/-- A label after AS, or right after what it labels. -/
def label : Reading (Option String) := do
  if ← skips (·.isKeyword "AS") then return some (← name)
  else
    match (← get).head?.bind (·.name?) with
    | some _ => return some (← name)
    | none => return none

/-- One thing that a statement shows. -/
def shownItem : Reading Shown := do
  if ← skips (·.isSign "*") then return .everything
  else
    let before ← get
    let found ← wholeTerm
    let after ← get
    let written := (before.take (before.length - after.length)).flatMap (·.written)
    return .term found (← label) (String.ofList written)

/-- The things that a statement shows, in at most the given number of steps. -/
def shownItems : (steps : Nat) → Reading (List Shown)
  | 0 => stuck
  | steps + 1 => do
      let first ← shownItem
      if ← skips (·.isSign ",") then return first :: (← shownItems steps)
      else return [first]

/-- A part that begins with a keyword, if that comes next. -/
def optional {Part : Type} (start : String) (part : Reading Part) : Reading (Option Part) := do
  if ← skips (·.isKeyword start) then return some (← part)
  else return none

/-- Whether a word is a string. -/
def isString (word : StatementWord) : Bool :=
  match word.kind with
  | .string _ => true
  | _ => false

/-- A table and perhaps another name for it, which is not used. -/
def source : Reading String := do
  let table ← name
  if ← skips isString then return table
  else
    let _ ← label
    return table

/-- What rows are sorted by. -/
def ordering : Reading (Term × Bool) := do
  expects (·.isKeyword "BY")
  let key ← wholeTerm
  if ← skips (·.isKeyword "DESC") then return (key, false)
  else
    let _ ← skips (·.isKeyword "ASC")
    return (key, true)

/-- A number of rows. -/
def bound : Reading Nat :=
  next fun word => if word.kind = .number then Inquiry.Reading.digits? word.written else none

/-- The end of a statement, perhaps marked by a semicolon. -/
def ending : Reading Unit := do
  let closed ← skips (·.isSign ";")
  if closed || (← get).isEmpty then return ()
  else stuck

/-- A whole statement. -/
def whole : Reading Statement := do
  expects (·.isKeyword "SELECT")
  let shown ← shownItems ((← get).length + 1)
  let table ← optional "FROM" source
  let condition ← optional "WHERE" wholeTerm
  let order ← optional "ORDER" ordering
  let limit ← optional "LIMIT" bound
  ending
  return { shown, table, condition, order, limit }

/-- The statement that a text is. -/
def ofText (text : String) : Except StatementFault Statement :=
  (whole.run (StatementWord.ofText text.toList)).map Prod.fst

end Statement

end Inquiry
