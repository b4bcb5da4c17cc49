import Inquiry.Proofs.Cuts
import Inquiry.Proofs.Scanning
import Inquiry.Proofs.TableNames

/-!
# Rewriting code

Tables are replaced piece by piece: a chosen reference becomes its table
between backticks, and every other piece stays.  The same can be done with
nothing but the spans of the references, by copying the code up to each chosen
one, writing the table, and going on where the reference ends (`copied?`).

Copying never fails, because every reference has the span of its piece
(`placed_pieces`), and it gives what replacing gives (`copied?_placed`).  So all
that is not in a chosen span is copied, and nothing else is written than the
tables (`replaceTables_in_spans`).  What a span holds is the reference as it is
written (`Shape.Writes`).
-/

set_option autoImplicit false

namespace Inquiry.Code

open Inquiry.Text

/-! ## References in their places -/

/-- The references among pieces. -/
def referencesOf (pieces : List Piece) : List Reference := pieces.filterMap Piece.reference?

@[simp] theorem referencesOf_nil : referencesOf [] = [] := rfl

@[simp] theorem referencesOf_kept (characters : List Char) (pieces : List Piece) :
    referencesOf (.kept characters :: pieces) = referencesOf pieces := rfl

@[simp] theorem referencesOf_reference (reference : Reference) (pieces : List Piece) :
    referencesOf (.reference reference :: pieces) = reference :: referencesOf pieces := rfl

/-- Each reference among pieces that are laid out from a place has the span of its piece. -/
def Placed (place : Nat) : List Piece → Prop
  | [] => True
  | piece :: rest =>
      (∀ reference ∈ piece.reference?,
        reference.span = ⟨place, place + byteSize piece.characters⟩) ∧
      Placed (place + byteSize piece.characters) rest

theorem placed_pieceOf (catalog : Catalog) (literals : List Span) (place : Nat)
    (tokens : List Token) :
    Placed place ((layOut Token.characters place tokens).map fun (span, token) =>
      pieceOf catalog literals span token) := by
  induction tokens generalizing place with
  | nil => trivial
  | cons token rest ih =>
      rw [layOut, List.map_cons, Placed, characters_pieceOf]
      refine ⟨fun reference isReference => ?_, ih _⟩
      cases token with
      | plain symbol => cases isReference
      | mention mention expected =>
          simp only [pieceOf] at isReference
          split at isReference <;> cases isReference
          rfl

/-- Each reference of code has the span of its piece. -/
theorem placed_pieces (catalog : Catalog) (code : List Char) : Placed 0 (pieces catalog code) :=
  placed_pieceOf catalog (literalSpans code) 0 (tokens code)

/-- The spans of references are among those of the pieces. -/
theorem sublist_of_placed {place : Nat} {pieces : List Piece} (placed : Placed place pieces) :
    ((referencesOf pieces).map (·.span)).Sublist
      ((layOut Piece.characters place pieces).map Prod.fst) := by
  induction pieces generalizing place with
  | nil => exact .slnil
  | cons piece rest ih =>
      have ofRest := ih placed.2
      cases piece with
      | kept characters => exact .cons _ ofRest
      | reference found =>
          have ofSpan : found.span = _ := placed.1 found rfl
          rw [referencesOf_reference, List.map_cons, ofSpan]
          exact .cons_cons _ ofRest

theorem Token.characters_ne_nil (token : Token) : token.characters ≠ [] := by
  cases token with
  | plain symbol => exact List.cons_ne_nil _ _
  | mention mention expected => exact List.length_pos_iff.1 mention.length_characters_pos

/-- The spans of the references of code can be cut out of it. -/
theorem cutOut_scan (catalog : Catalog) (code : List Char) :
    CutOut code ((scan catalog code).map (·.span)) := by
  have cut := cutOut_of_sublist (fun piece member => ?_)
    (sublist_of_placed (placed_pieces catalog code))
  · rwa [flatMap_pieces] at cut
  · obtain ⟨⟨span, token⟩, -, rfl⟩ := List.mem_map.1 member
    rw [characters_pieceOf]
    exact token.characters_ne_nil

/-! ## References as they are written -/

/-- How an identifier is written in a shape. -/
inductive Shape.Writes : Shape → (identifier text : List Char) → Prop
  | backtick {identifier : List Char} : '`' ∉ identifier →
      Shape.Writes .backtick identifier ('`' :: tableMark ++ identifier ++ ['`'])
  | doubleQuote {identifier : List Char} : '"' ∉ identifier →
      Shape.Writes .doubleQuote identifier ('"' :: tableMark ++ identifier ++ ['"'])
  | bare {identifier : List Char} : (∀ symbol ∈ identifier, isBareSymbol symbol = true) →
      Shape.Writes .bare identifier (tableMark ++ identifier)
  | emptyLiteral {quote : Char} : quote = '\'' ∨ quote = '"' →
      Shape.Writes .emptyLiteral [] (tableMark ++ [quote, quote])

theorem Mention.StandsBetween.writes {before : Option Char} {after : List Char} {mention : Mention}
    (stands : mention.StandsBetween before after) :
    mention.shape.Writes mention.identifier mention.characters := by
  cases mention with
  | backtick identifier => exact .backtick stands
  | doubleQuote identifier => exact .doubleQuote stands
  | bare identifier => exact .bare stands.2.1
  | emptyLiteral quote => exact .emptyLiteral stands.2

/-- The span of a reference holds the reference as it is written. -/
theorem writes_of_mem_scan {catalog : Catalog} {code : List Char} {reference : Reference}
    (member : reference ∈ scan catalog code) :
    ∃ text, slice? code reference.span = some text ∧
      reference.mention.shape.Writes reference.identifier text := by
  obtain ⟨expected, laidOut, -⟩ := mem_scan_iff.1 member
  obtain ⟨front, back, cut, same⟩ := mem_layOut_iff.1 laidOut
  have stands := stands_of_tokensFrom cut
  have whole := flatMap_tokensFrom [] code
  rw [← tokens, cut, List.flatMap_append, List.flatMap_cons, ← List.append_assoc] at whole
  refine ⟨reference.mention.characters, ?_, stands.writes⟩
  have sliced := slice?_append (front.flatMap Token.characters)
    reference.mention.characters (back.flatMap Token.characters)
  rw [same, Nat.zero_add, ← whole]
  exact sliced

/-! ## Copying -/

/-- The code behind a place with the chosen references replaced: it is copied up to the next chosen
one, the table is written, and copying goes on where the reference ends. -/
def copied? (choose : Reference → Option String) (code : List Char) (place : Nat) :
    List Reference → Option (List Char)
  | [] => (cut? place code).map Prod.snd
  | reference :: later =>
      match choose reference with
      | none => copied? choose code place later
      | some table => do
          let kept ← slice? code ⟨place, reference.span.start⟩
          let rest ← copied? choose code reference.span.stop later
          return kept ++ (quotedTable table).toList ++ rest

/-- Copying gives the pieces with the chosen ones replaced.  What is in front has been written
already, and what is pending has been passed over since. -/
theorem copied?_placed (choose : Reference → Option String) (front pending : List Char)
    {pieces : List Piece} (placed : Placed (byteSize (front ++ pending)) pieces) :
    copied? choose (front ++ pending ++ pieces.flatMap Piece.characters) (byteSize front)
        (referencesOf pieces) =
      some (pending ++ pieces.flatMap (Piece.replaced choose)) := by
  induction pieces generalizing front pending with
  | nil => simp [copied?, cut?_append]
  | cons piece rest ih =>
      have ofRest := placed.2
      rw [← byteSize_append] at ofRest
      cases piece with
      | kept characters =>
          have passed := ih front (pending ++ characters)
            (by rw [← List.append_assoc]; exact ofRest)
          simpa [Piece.characters, Piece.replaced] using passed
      | reference found =>
          have ofSpan : found.span = _ := placed.1 found rfl
          rw [referencesOf_reference, copied?]
          cases chosen : choose found with
          | none =>
              have passed := ih front (pending ++ found.mention.characters)
                (by rw [← List.append_assoc]; exact ofRest)
              simpa [Piece.characters, Piece.replaced, chosen] using passed
          | some table =>
              have written := ih (front ++ pending ++ found.mention.characters) []
                (by rw [List.append_nil]; exact ofRest)
              rw [List.append_nil, List.nil_append] at written
              have sliced := slice?_append front pending
                (found.mention.characters ++ rest.flatMap Piece.characters)
              rw [← byteSize_append, ← List.append_assoc] at sliced
              rw [List.flatMap_cons, List.flatMap_cons, Piece.characters, Piece.replaced, chosen,
                ← List.append_assoc]
              simp only [ofSpan, ← byteSize_append, Piece.characters, sliced, written,
                Option.bind_eq_bind, Option.bind_some, Option.pure_def]
              rw [toList_quotedTable, List.append_assoc]

/-- **Only what a chosen span holds is replaced.** The spans of the references can be cut out of
the code, each holds its reference as it is written, copying the code around the chosen ones
succeeds and gives what replacing gives, and without a choice nothing changes. -/
theorem replaceTables_in_spans (catalog : Catalog) (code : List Char)
    (choose : Reference → Option String) :
    CutOut code ((scan catalog code).map (·.span)) ∧
      (∀ reference ∈ scan catalog code, ∃ text, slice? code reference.span = some text ∧
        reference.mention.shape.Writes reference.identifier text) ∧
      copied? choose code 0 (scan catalog code) = some (replaceTables catalog code choose) ∧
      ((∀ reference ∈ scan catalog code, choose reference = none) →
        replaceTables catalog code choose = code) := by
  refine ⟨cutOut_scan catalog code, fun reference member => writes_of_mem_scan member, ?_, ?_⟩
  · have copied := copied?_placed choose [] [] (placed_pieces catalog code)
    rw [List.nil_append, List.nil_append, List.nil_append, flatMap_pieces] at copied
    exact copied
  · intro unchosen
    have same : ∀ piece ∈ pieces catalog code, piece.replaced choose = piece.characters := by
      intro piece member
      cases piece with
      | kept characters => rfl
      | reference found =>
          rw [Piece.replaced, unchosen found (List.mem_filterMap.2 ⟨_, member, rfl⟩)]
          rfl
    rw [replaceTables, List.flatMap_congr same, flatMap_pieces]

/-- Code with two references, and with characters of more than a byte. -/
def accentedCode : List Char := "SELECT 'é', tab'' FROM `tabÉté`".toList

/-- A table for what has no name yet. -/
def namingUnnamed (reference : Reference) : Option String :=
  if reference.identifier = [] then some "tabNote" else none

/-- In the accented code the empty literal becomes a table, and the rest is kept. -/
theorem replaceTables_in_spans_accentedCode :
    scan .empty accentedCode =
        [⟨⟨13, 18⟩, .emptyLiteral '\''⟩, ⟨⟨24, 34⟩, .backtick "Été".toList⟩] ∧
      (∃ text, slice? accentedCode ⟨24, 34⟩ = some text ∧
        Shape.Writes .backtick "Été".toList text) ∧
      replaceTables .empty accentedCode namingUnnamed =
        "SELECT 'é', `tabNote` FROM `tabÉté`".toList ∧
      replaceTables .empty accentedCode (fun _ => none) = accentedCode := by
  obtain ⟨-, written, copied, -⟩ := replaceTables_in_spans .empty accentedCode namingUnnamed
  have unchosen := (replaceTables_in_spans .empty accentedCode fun _ => none).2.2.2 fun _ _ => rfl
  have scanned : scan .empty accentedCode =
      [⟨⟨13, 18⟩, .emptyLiteral '\''⟩, ⟨⟨24, 34⟩, .backtick "Été".toList⟩] := by
    decide +kernel
  rw [scanned] at written copied
  have named := written ⟨⟨24, 34⟩, .backtick "Été".toList⟩ (by decide)
  refine ⟨scanned, named, Option.some.inj (copied.symm.trans ?_), unchosen⟩
  decide +kernel

end Inquiry.Code
