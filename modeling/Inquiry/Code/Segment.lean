import Inquiry.Catalog.Identifier
import Inquiry.Text.Alphanumeric
import Inquiry.Text.Span

/-!
# Quoted segments of code

Code is read from left to right into segments.  A backtick or a double quote
opens a quoted segment up to the next mark of its kind, and what stands in it
is not looked at.  A single quote opens a string literal, in which a backslash
guards the next character and a doubled quote stands for one; but the two
single quotes of an empty table name, written after the mark "tab", are no
literal.  A quote that is not closed reaches to the end of the code.

The characters of the segments, put together, are the code (`flatMap_segments`),
so the literals have spans that follow one another.
-/

set_option autoImplicit false

namespace Inquiry.Code

open Inquiry.Text

/-- A part of code. -/
inductive Segment where
  /-- A character outside quotes. -/
  | plain (symbol : Char)
  /-- A segment between two backticks or two double quotes. -/
  | closed (mark : Char) (body : List Char)
  /-- A segment after a backtick or a double quote that is not closed. -/
  | unclosed (mark : Char) (body : List Char)
  /-- The two quotes of an empty table name. -/
  | emptyTable
  /-- A string literal: all that follows its opening quote, the closing one included. -/
  | literal (body : List Char)
deriving DecidableEq

namespace Segment

/-- The characters of a segment. -/
def characters : Segment → List Char
  | .plain symbol => [symbol]
  | .closed mark body => mark :: body ++ [mark]
  | .unclosed mark body => mark :: body
  | .emptyTable => ['\'', '\'']
  | .literal body => '\'' :: body

/-- Whether a segment is a string literal. -/
def isLiteral : Segment → Bool
  | .literal _ => true
  | _ => false

end Segment

/-! ## Reading segments -/

/-- The rest of a literal after its opening quote, and the code after it. -/
def literalBody : List Char → List Char × List Char
  | [] => ([], [])
  | '\\' :: symbol :: rest =>
      let (body, after) := literalBody rest
      ('\\' :: symbol :: body, after)
  | '\'' :: '\'' :: rest =>
      let (body, after) := literalBody rest
      ('\'' :: '\'' :: body, after)
  | '\'' :: rest => (['\''], rest)
  | symbol :: rest =>
      let (body, after) := literalBody rest
      (symbol :: body, after)

/-- The body of a quoted segment and the code after its closing mark, if the mark is there. -/
def closedBody? (mark : Char) (text : List Char) : Option (List Char × List Char) :=
  match text.dropWhile (· != mark) with
  | [] => none
  | _ :: after => some (text.takeWhile (· != mark), after)

/-- Whether the mark of tables stands, as a word of its own start, at the end of the code before.
The code before is given from its end. -/
def endsInTableMark (before : List Char) : Bool :=
  match tableMark.reverse.isPrefixOf? before with
  | none => false
  | some earlier => earlier.head?.all (fun symbol => !isWordPart symbol)

/-- The rest of a literal is a part of the code after the opening quote. -/
theorem literalBody_append (text : List Char) :
    (literalBody text).1 ++ (literalBody text).2 = text := by
  fun_induction literalBody text <;> simp_all

/-- A closed body, its mark and the code after it are the code. -/
theorem closedBody?_append {mark : Char} {text body after : List Char}
    (found : closedBody? mark text = some (body, after)) : body ++ mark :: after = text := by
  have whole := List.takeWhile_append_dropWhile (p := (· != mark)) (l := text)
  rw [closedBody?] at found
  split at found
  · simp at found
  case h_2 symbol rest same =>
    have isMark : symbol = mark := by
      have fails := List.head?_dropWhile_not (· != mark) text
      simpa [same] using fails
    simp only [Option.some.injEq, Prod.mk.injEq] at found
    subst isMark
    rw [← found.1, ← found.2, ← same]
    exact whole

/-- The segments of the rest of code, `before` holding the earlier part from its end. -/
def segmentsFrom (before text : List Char) : List Segment :=
  match text with
  | [] => []
  | symbol :: rest =>
      if symbol = '`' ∨ symbol = '"' then
        match _found : closedBody? symbol rest with
        | none => [.unclosed symbol rest]
        | some (body, after) =>
            .closed symbol body ::
              segmentsFrom (symbol :: (body.reverse ++ symbol :: before)) after
      else if symbol = '\'' then
        if rest.head? = some '\'' ∧ endsInTableMark before then
          .emptyTable :: segmentsFrom ('\'' :: '\'' :: before) (rest.drop 1)
        else
          .literal (literalBody rest).1 ::
            segmentsFrom ((literalBody rest).1.reverse ++ '\'' :: before) (literalBody rest).2
      else .plain symbol :: segmentsFrom (symbol :: before) rest
termination_by text.length
decreasing_by
  · have whole := congrArg List.length (closedBody?_append _found)
    simp only [List.length_append, List.length_cons] at whole ⊢
    omega
  · simp only [List.length_cons, List.length_drop]
    omega
  · have whole := congrArg List.length (literalBody_append rest)
    simp only [List.length_append, List.length_cons] at whole ⊢
    omega
  · simp

/-- The characters of the segments, put together, are the rest of the code. -/
theorem flatMap_segmentsFrom (before text : List Char) :
    (segmentsFrom before text).flatMap Segment.characters = text := by
  fun_induction segmentsFrom before text with
  | case1 => rfl
  | case2 => simp [Segment.characters]
  | case3 before symbol rest isMark body after found ih =>
      simp [Segment.characters, ih, ← closedBody?_append found]
  | case4 before rest isEmpty _ ih =>
      cases rest with
      | nil => simp at isEmpty
      | cons next rest =>
          simp only [List.head?_cons, Option.some.injEq] at isEmpty
          simpa [Segment.characters, isEmpty.1] using ih
  | case5 before rest notEmpty _ ih =>
      simp [Segment.characters, ih, literalBody_append]
  | case6 before symbol rest notMark notQuote ih => simp [Segment.characters, ih]

/-- The segments of code. -/
def segments (code : List Char) : List Segment := segmentsFrom [] code

/-- The characters of the segments, put together, are the code. -/
theorem flatMap_segments (code : List Char) :
    (segments code).flatMap Segment.characters = code :=
  flatMap_segmentsFrom [] code

/-- The spans of the string literals of code, quotes included. -/
def literalSpans (code : List Char) : List Span :=
  ((layOut Segment.characters 0 (segments code)).filter (·.2.isLiteral)).map Prod.fst

/-- The code with every character of a literal replaced by as many blanks as it has bytes. -/
def withoutLiterals (code : List Char) : List Char :=
  (segments code).flatMap fun segment =>
    if segment.isLiteral then List.replicate (byteSize segment.characters) ' '
    else segment.characters

end Inquiry.Code
