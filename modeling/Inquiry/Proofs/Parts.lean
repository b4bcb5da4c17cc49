import Inquiry.Proofs.Mentions

/-!
# Code in parts

A part is a piece of code without its span: text that is kept, or a mention
that counts as a reference.  Which of the two a token is depends on the token
and on the quotes that are open before it (`Token.part`), so the parts are read
off the tokens from left to right, with a `Quoting` for what came before
(`partsOf`).  They are the pieces that the spans of the literals give
(`map_part_pieces`).

Reading can be stopped between two parts and taken up again
(`partsOf_resume`), which is what makes parts the thing to reason about when
code changes in one place.
-/

set_option autoImplicit false

namespace Inquiry.Code

open Inquiry.Text

/-! ## Parts -/

/-- A piece of code without its span. -/
inductive Part where
  | kept (characters : List Char)
  /-- A mention that counts as a reference. -/
  | table (mention : Mention)
deriving DecidableEq

namespace Part

/-- The characters of a part. -/
def characters : Part → List Char
  | .kept characters => characters
  | .table mention => mention.characters

/-- The mention that a part is. -/
def mention? : Part → Option Mention
  | .kept _ => none
  | .table mention => some mention

end Part

/-- The mentions among parts. -/
def mentionsOf (parts : List Part) : List Mention := parts.filterMap Part.mention?

@[simp] theorem mentionsOf_kept (characters : List Char) (parts : List Part) :
    mentionsOf (.kept characters :: parts) = mentionsOf parts := rfl

@[simp] theorem mentionsOf_table (mention : Mention) (parts : List Part) :
    mentionsOf (.table mention :: parts) = mention :: mentionsOf parts := rfl

@[simp] theorem mentionsOf_append (front back : List Part) :
    mentionsOf (front ++ back) = mentionsOf front ++ mentionsOf back := List.filterMap_append

theorem mem_mentionsOf_iff {parts : List Part} {mention : Mention} :
    mention ∈ mentionsOf parts ↔ .table mention ∈ parts := by
  rw [mentionsOf, List.mem_filterMap]
  constructor
  · rintro ⟨part, member, same⟩
    cases part with
    | kept characters => cases same
    | table mention =>
        cases same
        exact member
  · intro member
    exact ⟨.table mention, member, rfl⟩

/-- A piece without its span. -/
def Piece.part : Piece → Part
  | .kept characters => .kept characters
  | .reference found => .table found.mention

/-- The part that a token is, given what quotes are open before it. -/
def Token.part (catalog : Catalog) (quoting : Quoting) : Token → Part
  | .plain symbol => .kept [symbol]
  | .mention written expected =>
      if !quoting.hides && counts catalog expected written then .table written
      else .kept written.characters

/-- The parts that tokens are, given what quotes are open before them. -/
def partsOf (catalog : Catalog) : Quoting → List Token → List Part
  | _, [] => []
  | quoting, token :: rest =>
      token.part catalog quoting :: partsOf catalog (quoting.after token.characters) rest

@[simp] theorem partsOf_nil (catalog : Catalog) (quoting : Quoting) :
    partsOf catalog quoting [] = [] := rfl

@[simp] theorem partsOf_plain (catalog : Catalog) (quoting : Quoting) (symbol : Char)
    (rest : List Token) :
    partsOf catalog quoting (.plain symbol :: rest) =
      .kept [symbol] :: partsOf catalog (quoting.step symbol) rest := rfl

@[simp] theorem partsOf_mention (catalog : Catalog) (quoting : Quoting) (mention : Mention)
    (expected : Bool) (rest : List Token) :
    partsOf catalog quoting (.mention mention expected :: rest) =
      (Token.mention mention expected).part catalog quoting ::
        partsOf catalog (quoting.after mention.characters) rest := rfl

/-- The parts of code. -/
def parts (catalog : Catalog) (code : List Char) : List Part :=
  partsOf catalog .outside (tokens code)

theorem characters_part (catalog : Catalog) (quoting : Quoting) (token : Token) :
    (token.part catalog quoting).characters = token.characters := by
  cases token with
  | plain symbol => rfl
  | mention mention expected =>
      rw [Token.part]
      split <;> rfl

/-- The characters of the parts, put together, are those of the tokens. -/
theorem flatMap_partsOf (catalog : Catalog) (quoting : Quoting) (tokens : List Token) :
    (partsOf catalog quoting tokens).flatMap Part.characters =
      tokens.flatMap Token.characters := by
  induction tokens generalizing quoting with
  | nil => rfl
  | cons token rest ih => rw [partsOf, List.flatMap_cons, characters_part, ih, List.flatMap_cons]

theorem Mention.exists_characters_eq_cons (mention : Mention) :
    ∃ symbol rest, mention.characters = symbol :: rest ∧ symbol ≠ '\'' := by
  cases mention with
  | backtick identifier => exact ⟨_, _, rfl, by decide⟩
  | doubleQuote identifier => exact ⟨_, _, rfl, by decide⟩
  | bare identifier => exact ⟨_, _, rfl, by decide⟩
  | emptyLiteral quote => exact ⟨_, _, rfl, by decide⟩

/-- The pieces that tokens after a text are, without their spans, are the parts that they are. -/
theorem map_part_layOut (catalog : Catalog) (before : List Char) (tokens : List Token) :
    (layOut Token.characters (byteSize before) tokens).map (fun (span, token) =>
      (pieceOf catalog (literalSpans (before ++ tokens.flatMap Token.characters)) span
        token).part) =
      partsOf catalog (Quoting.outside.after before) tokens := by
  induction tokens generalizing before with
  | nil => rfl
  | cons token rest ih =>
      have ofRest := ih (before ++ token.characters)
      rw [byteSize_append, Quoting.after_append, List.append_assoc,
        ← List.flatMap_cons] at ofRest
      rw [layOut, List.map_cons, partsOf, ofRest, List.cons.injEq]
      refine ⟨?_, rfl⟩
      cases token with
      | plain symbol => rfl
      | mention mention expected =>
          obtain ⟨symbol, tail, same, notQuote⟩ := mention.exists_characters_eq_cons
          have hidden := holds_literalSpans before (tail ++ rest.flatMap Token.characters) notQuote
          rw [← List.cons_append, ← same] at hidden
          simp only [pieceOf, Token.part, List.flatMap_cons, Token.characters, hidden]
          split <;> rfl

/-- The pieces of code without their spans are its parts. -/
theorem map_part_pieces (catalog : Catalog) (code : List Char) :
    (pieces catalog code).map Piece.part = parts catalog code := by
  have laidOut := map_part_layOut catalog [] (tokens code)
  rw [List.nil_append, tokens, flatMap_tokensFrom] at laidOut
  rw [pieces, List.map_map]
  exact laidOut

/-- The mentions of the references of code are those of its parts. -/
theorem map_mention_scan (catalog : Catalog) (code : List Char) :
    (scan catalog code).map (·.mention) = mentionsOf (parts catalog code) := by
  rw [mentionsOf, ← map_part_pieces, scan, List.filterMap_map, List.map_filterMap]
  congr
  funext piece
  cases piece <;> rfl

/-- A mention is the one of a reference if it is a part of the code. -/
theorem table_mem_parts_iff {catalog : Catalog} {code : List Char} {mention : Mention} :
    .table mention ∈ parts catalog code ↔ ∃ found ∈ scan catalog code, found.mention = mention := by
  rw [← mem_mentionsOf_iff, ← map_mention_scan, List.mem_map]

/-! ## Tokens and parts, one by one -/

section Reading

variable {catalog : Catalog}

theorem tokensFrom_of_mention {before text after : List Char} {mention : Mention}
    (found : mentionAt? before.head? text = some (mention, after)) :
    tokensFrom before text =
      .mention mention (expectsTable before) ::
        tokensFrom (mention.characters.reverse ++ before) after := by
  cases text with
  | nil => cases found
  | cons symbol rest =>
      rw [tokensFrom]
      split
      case h_1 read =>
        rw [found] at read
        cases read
        rfl
      case h_2 none =>
        rw [found] at none
        cases none

theorem tokensFrom_of_none {before rest : List Char} {symbol : Char}
    (none : mentionAt? before.head? (symbol :: rest) = none) :
    tokensFrom before (symbol :: rest) = .plain symbol :: tokensFrom (symbol :: before) rest := by
  rw [tokensFrom]
  split
  case h_1 read =>
    rw [none] at read
    cases read
  case h_2 => rfl

theorem flatMap_partsOf_tokensFrom (catalog : Catalog) (quoting : Quoting)
    (before text : List Char) :
    (partsOf catalog quoting (tokensFrom before text)).flatMap Part.characters = text := by
  rw [flatMap_partsOf, flatMap_tokensFrom]

/-- Reading goes on from where a part ends. -/
theorem partsOf_resume {quoting : Quoting} {before text : List Char} {front back : List Part}
    (cut : partsOf catalog quoting (tokensFrom before text) = front ++ back) :
    partsOf catalog (quoting.after (front.flatMap Part.characters))
      (tokensFrom ((front.flatMap Part.characters).reverse ++ before)
        (back.flatMap Part.characters)) = back := by
  induction front generalizing quoting before text with
  | nil =>
      have whole := flatMap_partsOf_tokensFrom catalog quoting before text
      rw [cut, List.nil_append] at whole
      rw [List.flatMap_nil, whole]
      exact cut
  | cons part front ih =>
      cases text with
      | nil =>
          rw [tokensFrom] at cut
          cases cut
      | cons symbol rest =>
          rw [List.cons_append] at cut
          rw [List.flatMap_cons, Quoting.after_append, List.reverse_append, List.append_assoc]
          cases found : mentionAt? before.head? (symbol :: rest) with
          | none =>
              rw [tokensFrom_of_none found, partsOf_plain] at cut
              obtain ⟨rfl, ofRest⟩ := List.cons.inj cut
              exact ih ofRest
          | some read =>
              obtain ⟨mention, after⟩ := read
              rw [tokensFrom_of_mention found, partsOf_mention] at cut
              obtain ⟨rfl, ofRest⟩ := List.cons.inj cut
              rw [characters_part]
              exact ih ofRest

/-- Reading goes on behind a part. -/
theorem partsOf_resume_cons {quoting : Quoting} {before text : List Char} {front back : List Part}
    {part : Part}
    (cut : partsOf catalog quoting (tokensFrom before text) = front ++ part :: back) :
    partsOf catalog ((quoting.after (front.flatMap Part.characters)).after part.characters)
      (tokensFrom (part.characters.reverse ++ ((front.flatMap Part.characters).reverse ++ before))
        (back.flatMap Part.characters)) = back := by
  rw [List.append_cons] at cut
  have resumed := partsOf_resume cut
  have ofFront : (front ++ [part]).flatMap Part.characters =
      front.flatMap Part.characters ++ part.characters := by
    simp
  rw [ofFront, Quoting.after_append, List.reverse_append, List.append_assoc] at resumed
  exact resumed

/-- A token is a character, a mention that counts, outside literals, or one that does not. -/
theorem exists_token_of_cons {quoting : Quoting} {before text : List Char} {part : Part}
    {parts : List Part} (cut : partsOf catalog quoting (tokensFrom before text) = part :: parts) :
    (mentionAt? before.head? text = none ∧ ∃ symbol, part = .kept [symbol]) ∨
      ∃ mention after, mentionAt? before.head? text = some (mention, after) ∧
        (part = .table mention ∧ quoting.hides = false ∨ part = .kept mention.characters) := by
  cases text with
  | nil =>
      rw [tokensFrom] at cut
      cases cut
  | cons symbol rest =>
      cases found : mentionAt? before.head? (symbol :: rest) with
      | none =>
          rw [tokensFrom_of_none found, partsOf_plain] at cut
          exact .inl ⟨rfl, symbol, (List.cons.inj cut).1.symm⟩
      | some read =>
          obtain ⟨mention, after⟩ := read
          rw [tokensFrom_of_mention found, partsOf_mention] at cut
          refine .inr ⟨mention, after, rfl, ?_⟩
          rw [← (List.cons.inj cut).1, Token.part]
          split
          case isTrue counted =>
            rw [Bool.and_eq_true, Bool.not_eq_true'] at counted
            exact .inl ⟨rfl, counted.1⟩
          case isFalse => exact .inr rfl

theorem Mention.three_le_length_characters (mention : Mention) :
    3 ≤ mention.characters.length := by
  cases mention <;> simp [Mention.characters, tableMark]

/-- Whether a mention counts depends on the code before it only for the bare mark of tables. -/
theorem counts_congr {mention : Mention} (notLone : mention ≠ .bare []) (expected other : Bool) :
    counts catalog expected mention = counts catalog other mention := by
  cases mention with
  | backtick identifier => rfl
  | doubleQuote identifier => rfl
  | bare identifier =>
      cases identifier with
      | nil => exact absurd rfl notLone
      | cons symbol rest => simp [counts]
  | emptyLiteral quote => rfl

/-- A mention that does not count does not count where a table is expected less. -/
theorem counts_eq_false_of_le {mention : Mention} {expected other : Bool}
    (fewer : other = true → expected = true) (uncounted : counts catalog expected mention = false) :
    counts catalog other mention = false := by
  by_cases lone : mention = .bare []
  · subst lone
    cases other with
    | false => rfl
    | true =>
        rw [fewer rfl] at uncounted
        exact uncounted
  · rw [counts_congr lone other expected]
    exact uncounted

/-- A mention that counts stands where it was read, outside literals. -/
theorem stands_of_table {quoting : Quoting} {before text : List Char} {front back : List Part}
    {mention : Mention}
    (cut : partsOf catalog quoting (tokensFrom before text) = front ++ .table mention :: back) :
    (quoting.after (front.flatMap Part.characters)).hides = false ∧
      mention.StandsBetween ((front.flatMap Part.characters).reverse ++ before).head?
        (back.flatMap Part.characters) := by
  rcases exists_token_of_cons (partsOf_resume cut) with ⟨-, symbol, same⟩ |
    ⟨again, after, found, ⟨same, shown⟩ | same⟩
  · cases same
  · cases same
    obtain ⟨whole, stands⟩ := mentionAt?_eq_some_iff.1 found
    rw [List.flatMap_cons] at whole
    obtain rfl := List.append_cancel_left whole
    exact ⟨shown, stands⟩
  · cases same

/-- A mark that is kept before the mark of tables is not closed later. -/
theorem notMem_of_kept {quoting : Quoting} {before text : List Char} {front back : List Part}
    {mark : Char}
    (cut : partsOf catalog quoting (tokensFrom before text) = front ++ .kept [mark] :: back)
    (marked : isMark mark = true) (begins : tableMark <+: back.flatMap Part.characters) :
    mark ∉ back.flatMap Part.characters := by
  rcases exists_token_of_cons (partsOf_resume cut) with ⟨none, -⟩ |
    ⟨again, after, -, ⟨same, -⟩ | same⟩
  · have none : mentionAt? _ (mark :: back.flatMap Part.characters) = Option.none := none
    rw [mentionAt?_eq_none_iff, if_pos marked] at none
    exact none begins
  · cases same
  · have short := congrArg List.length (Part.kept.inj same)
    have long := again.three_le_length_characters
    rw [List.length_singleton] at short
    omega

end Reading

end Inquiry.Code
