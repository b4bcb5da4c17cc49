import Inquiry.Catalog.Basic
import Inquiry.Code.Segment
import Inquiry.Text.Search
import Inquiry.Text.WordSymbol

/-!
# Table references in code

Code mentions a table in one of four shapes: a name between backticks, a name
between double quotes, a bare name, or the mark of tables followed by two
quotes with nothing between them.  Code is read from left to right into tokens,
a mention taking precedence over a plain character, and no mention overlaps
another.

A mention is a reference to a table unless it begins inside a string literal
or is an ordinary word: between double quotes or bare, a name counts only when
it is blank, begins with a capital letter or a digit, or means an entity of the
catalog; and the bare mark alone counts only right after FROM or JOIN.
-/

set_option autoImplicit false

namespace Inquiry.Code

open Inquiry.Text

/-! ## Mentions -/

/-- A way of writing a table name. -/
inductive Shape where
  | backtick
  | doubleQuote
  | bare
  | emptyLiteral
deriving DecidableEq

/-- The name of a shape. -/
def Shape.name : Shape → String
  | .backtick => "Backtick"
  | .doubleQuote => "DoubleQuote"
  | .bare => "Bare"
  | .emptyLiteral => "EmptyLiteral"

/-- A table name as it is written, with what follows the mark of tables. -/
inductive Mention where
  | backtick (identifier : List Char)
  | doubleQuote (identifier : List Char)
  | bare (identifier : List Char)
  /-- The mark of tables and two quotes of the given kind. -/
  | emptyLiteral (quote : Char)
deriving DecidableEq

namespace Mention

/-- The shape of a mention. -/
def shape : Mention → Shape
  | .backtick _ => .backtick
  | .doubleQuote _ => .doubleQuote
  | .bare _ => .bare
  | .emptyLiteral _ => .emptyLiteral

/-- What follows the mark of tables. -/
def identifier : Mention → List Char
  | .backtick identifier => identifier
  | .doubleQuote identifier => identifier
  | .bare identifier => identifier
  | .emptyLiteral _ => []

/-- The characters of a mention. -/
def characters : Mention → List Char
  | .backtick identifier => '`' :: tableMark ++ identifier ++ ['`']
  | .doubleQuote identifier => '"' :: tableMark ++ identifier ++ ['"']
  | .bare identifier => tableMark ++ identifier
  | .emptyLiteral quote => tableMark ++ [quote, quote]

/-- Whether a mention names no table. -/
def isEmpty (mention : Mention) : Bool := (trim mention.identifier).isEmpty

end Mention

/-! ## Reading tokens -/

/-- A character of a bare table name. -/
def isBareSymbol (symbol : Char) : Bool :=
  ('a' ≤ symbol && symbol ≤ 'z') || ('A' ≤ symbol && symbol ≤ 'Z') ||
    ('0' ≤ symbol && symbol ≤ '9') || symbol = '_'

/-- What follows the mark of tables where it is written without quotes around it. -/
def bareMention (rest : List Char) : Mention × List Char :=
  match rest with
  | '\'' :: '\'' :: after => (.emptyLiteral '\'', after)
  | '"' :: '"' :: after => (.emptyLiteral '"', after)
  | _ => (.bare (rest.takeWhile isBareSymbol), rest.dropWhile isBareSymbol)

/-- The mention at the start of code, and the code after it; `before` is the character in front. -/
def mentionAt? (before : Option Char) : List Char → Option (Mention × List Char)
  | [] => none
  | symbol :: rest =>
      if symbol = '`' then do
        let (identifier, after) ← closedBody? '`' (← tableMark.isPrefixOf? rest)
        return (.backtick identifier, after)
      else if symbol = '"' then do
        let (identifier, after) ← closedBody? '"' (← tableMark.isPrefixOf? rest)
        return (.doubleQuote identifier, after)
      else if startsWordAfter before then
        (tableMark.isPrefixOf? (symbol :: rest)).map bareMention
      else none

/-- The word that ends the code before, blanks aside; the code before is given from its end. -/
def wordBefore (before : List Char) : List Char :=
  ((before.dropWhile isBlank).takeWhile Char.isAlpha).reverse.map Char.toLower

/-- Whether a table name is expected after the code before, which is given from its end. -/
def expectsTable (before : List Char) : Bool :=
  wordBefore before = "from".toList || wordBefore before = "join".toList

/-- A token of code: a character, or a mention and whether a table name is expected there. -/
inductive Token where
  | plain (symbol : Char)
  | mention (mention : Mention) (expected : Bool)
deriving DecidableEq

/-- The characters of a token. -/
def Token.characters : Token → List Char
  | .plain symbol => [symbol]
  | .mention written _ => written.characters

/-- The characters of a mention and the code after it are the code. -/
theorem mentionAt?_append {before : Option Char} {text after : List Char} {mention : Mention}
    (found : mentionAt? before text = some (mention, after)) :
    mention.characters ++ after = text := by
  cases text with
  | nil => simp [mentionAt?] at found
  | cons symbol rest =>
      rw [mentionAt?] at found
      split at found
      case isTrue isTick =>
        obtain ⟨inner, marked, found⟩ := Option.bind_eq_some_iff.1 found
        obtain ⟨⟨identifier, _⟩, closed, same⟩ := Option.bind_eq_some_iff.1 found
        simp only [Option.pure_def, Option.some.injEq, Prod.mk.injEq] at same
        obtain ⟨rfl, rfl⟩ := same
        simp [Mention.characters, isTick, ← append_of_isPrefixOf? marked,
          ← closedBody?_append closed]
      split at found
      case isFalse.isTrue isQuote =>
        obtain ⟨inner, marked, found⟩ := Option.bind_eq_some_iff.1 found
        obtain ⟨⟨identifier, _⟩, closed, same⟩ := Option.bind_eq_some_iff.1 found
        simp only [Option.pure_def, Option.some.injEq, Prod.mk.injEq] at same
        obtain ⟨rfl, rfl⟩ := same
        simp [Mention.characters, isQuote, ← append_of_isPrefixOf? marked,
          ← closedBody?_append closed]
      split at found
      case isFalse.isFalse.isTrue =>
        obtain ⟨inner, marked, same⟩ := Option.map_eq_some_iff.1 found
        rw [← append_of_isPrefixOf? marked]
        unfold bareMention at same
        split at same <;> obtain ⟨rfl, rfl⟩ := Prod.mk.inj same <;> simp [Mention.characters]
      · simp at found

/-- A mention has characters. -/
theorem Mention.length_characters_pos (mention : Mention) : 0 < mention.characters.length := by
  cases mention <;> simp [Mention.characters, tableMark]

/-- The tokens of the rest of code, `before` holding the earlier part from its end. -/
def tokensFrom (before text : List Char) : List Token :=
  match text with
  | [] => []
  | symbol :: rest =>
      match _found : mentionAt? before.head? (symbol :: rest) with
      | some (mention, after) =>
          .mention mention (expectsTable before) ::
            tokensFrom (mention.characters.reverse ++ before) after
      | none => .plain symbol :: tokensFrom (symbol :: before) rest
termination_by text.length
decreasing_by
  · have whole := congrArg List.length (mentionAt?_append _found)
    have positive := mention.length_characters_pos
    simp only [List.length_append, List.length_cons] at whole ⊢
    omega
  · simp

/-- The tokens of code. -/
def tokens (code : List Char) : List Token := tokensFrom [] code

/-- The characters of the tokens, put together, are the rest of the code. -/
theorem flatMap_tokensFrom (before text : List Char) :
    (tokensFrom before text).flatMap Token.characters = text := by
  fun_induction tokensFrom before text with
  | case1 => rfl
  | case2 before symbol rest mention after found ih =>
      simp [Token.characters, ih, mentionAt?_append found]
  | case3 before symbol rest found ih => simp [Token.characters, ih]

/-! ## References -/

/-- A table reference: a mention that counts, and where it stands. -/
structure Reference where
  span : Span
  mention : Mention
deriving DecidableEq

namespace Reference

/-- What follows the mark of tables. -/
def identifier (reference : Reference) : List Char := reference.mention.identifier

/-- Whether the reference names no table. -/
def isEmpty (reference : Reference) : Bool := reference.mention.isEmpty

/-- The reference as it is written. -/
def raw (reference : Reference) : String := String.ofList reference.mention.characters

/-- The entity that the reference means. -/
def entity? (catalog : Catalog) (reference : Reference) : Option Entity :=
  catalog.resolve? reference.identifier

end Reference

/-- Whether a name without backticks is a table name and not an ordinary word. -/
def isTableName (catalog : Catalog) (identifier : List Char) : Bool :=
  match identifier with
  | [] => true
  | symbol :: _ =>
      ('A' ≤ symbol && symbol ≤ 'Z') || ('0' ≤ symbol && symbol ≤ '9') ||
        (catalog.resolve? identifier).isSome

/-- Whether a mention outside string literals counts as a reference. -/
def counts (catalog : Catalog) (expected : Bool) : Mention → Bool
  | .backtick _ => true
  | .doubleQuote identifier => isTableName catalog (trim identifier)
  | .bare identifier => (!identifier.isEmpty || expected) && isTableName catalog identifier
  | .emptyLiteral _ => true

/-- A piece of code: characters that are kept as they are, or a reference. -/
inductive Piece where
  | kept (characters : List Char)
  | reference (reference : Reference)
deriving DecidableEq

namespace Piece

/-- The characters of a piece. -/
def characters : Piece → List Char
  | .kept characters => characters
  | .reference found => found.mention.characters

/-- The reference that a piece is. -/
def reference? : Piece → Option Reference
  | .kept _ => none
  | .reference found => some found

end Piece

/-- The piece that a token at a span is, given the spans of the string literals. -/
def pieceOf (catalog : Catalog) (literals : List Span) (span : Span) : Token → Piece
  | .plain symbol => .kept [symbol]
  | .mention mention expected =>
      if !literals.any (fun literal => literal.holds span.start) &&
          counts catalog expected mention then
        .reference ⟨span, mention⟩
      else .kept mention.characters

/-- The pieces of code. -/
def pieces (catalog : Catalog) (code : List Char) : List Piece :=
  let literals := literalSpans code
  (layOut Token.characters 0 (tokens code)).map fun (span, token) =>
    pieceOf catalog literals span token

/-- The table references of code, in order. -/
def scan (catalog : Catalog) (code : List Char) : List Reference :=
  (pieces catalog code).filterMap Piece.reference?

/-- The entities that the references of code mean, each once and in order of first mention. -/
def referencedEntities (catalog : Catalog) (code : List Char) : List String :=
  ((scan catalog code).filterMap (Reference.entity? catalog)).foldl
    (fun names entity => if names.contains entity.name then names else names ++ [entity.name]) []

/-! ## Replacing tables -/

/-- A piece with a reference replaced by a table between backticks, where a table is chosen. -/
def Piece.replaced (choose : Reference → Option String) : Piece → List Char
  | .kept characters => characters
  | .reference found =>
      match choose found with
      | some table => '`' :: table.toList ++ ['`']
      | none => found.mention.characters

/-- The code with chosen references replaced by tables; all else is kept. -/
def replaceTables (catalog : Catalog) (code : List Char) (choose : Reference → Option String) :
    List Char :=
  (pieces catalog code).flatMap (Piece.replaced choose)

/-- A piece has the characters of its token. -/
theorem characters_pieceOf (catalog : Catalog) (literals : List Span) (span : Span)
    (token : Token) : (pieceOf catalog literals span token).characters = token.characters := by
  cases token with
  | plain symbol => rfl
  | mention mention expected =>
      simp only [pieceOf]
      split <;> rfl

/-- The characters of the pieces, put together, are the code. -/
theorem flatMap_pieces (catalog : Catalog) (code : List Char) :
    (pieces catalog code).flatMap Piece.characters = code := by
  have whole := flatMap_tokensFrom [] code
  have tokensOf := map_snd_layOut Token.characters 0 (tokens code)
  rw [pieces, List.flatMap_map]
  simp only [characters_pieceOf]
  rw [← List.flatMap_map (f := Prod.snd) (g := Token.characters), tokensOf]
  exact whole

end Inquiry.Code
