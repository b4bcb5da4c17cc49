import Inquiry.Proofs.Cuts

/-!
# Literals in bytes

Code is stored as bytes, and a reader that steps over bytes finds the literals
too: the marks, the quote and the backslash are characters of one byte, which
is no byte of any other character (`toUInt8_mem_iff`).  After a backslash it
steps over a single byte more; if that is not a whole character, the bytes of it
that are left are none of the four, and it steps over them one by one.  So both
readers end a literal at the same place (`literalLength_bytes`), and the reader
of bytes looks back at the text in front only from places between characters
(`literalsFrom?_bytes`).

Blanking the literals out one after the other, each by as many blanks as it has
bytes, moves no other literal.  It always succeeds, keeps the size of the code
and changes no byte outside the literals (`literals_cutOut`).
-/

set_option autoImplicit false

namespace Inquiry.Code

open Inquiry.Text

/-! ## Reading bytes -/

/-- How many bytes a literal has after its opening quote, given the bytes that follow the quote.
A literal that is not closed has them all. -/
def literalLength (rest : List UInt8) : Nat :=
  match rest with
  | [] => 0
  | byte :: rest =>
      if byte = '\\'.toUInt8 then
        if rest = [] then 1 else 2 + literalLength rest.tail
      else if byte = '\''.toUInt8 then
        if rest.head? = some '\''.toUInt8 then 2 + literalLength rest.tail else 1
      else 1 + literalLength rest
termination_by rest.length
decreasing_by all_goals simp only [List.length_cons, List.length_tail]; omega

/-- Whether the quote at a place is the first of an empty table name, given the bytes after it.
Only before another quote is the text in front looked at. -/
def opensEmptyTable? (code : List Char) (place : Nat) (rest : List UInt8) : Option Bool :=
  if rest.head? = some '\''.toUInt8 then
    (cut? place code).map fun (before, _) => endsInTableMark before.reverse
  else some false

/-- How many bytes there are before the next one of a kind. -/
def lengthUpTo (byte : UInt8) (rest : List UInt8) : Nat := (rest.takeWhile (· != byte)).length

/-- The spans of the literals of code behind a place, given the bytes there.
There are none if the code is cut within a character. -/
def literalsFrom? (code : List Char) (place : Nat) (rest : List UInt8) : Option (List Span) :=
  match rest with
  | [] => some []
  | byte :: rest =>
      if byte = '`'.toUInt8 ∨ byte = '"'.toUInt8 then
        literalsFrom? code (place + lengthUpTo byte rest + 2) (rest.drop (lengthUpTo byte rest + 1))
      else if byte = '\''.toUInt8 then
        match opensEmptyTable? code place rest with
        | none => none
        | some true => literalsFrom? code (place + 2) (rest.drop 1)
        | some false =>
            (literalsFrom? code (place + 1 + literalLength rest)
              (rest.drop (literalLength rest))).map
                (⟨place, place + 1 + literalLength rest⟩ :: ·)
      else literalsFrom? code (place + 1) rest
termination_by rest.length
decreasing_by all_goals simp only [List.length_cons, List.length_drop]; omega

/-! ## One literal -/

theorem literalLength_guard (byte : UInt8) (rest : List UInt8) :
    literalLength ('\\'.toUInt8 :: byte :: rest) = 2 + literalLength rest := by
  rw [literalLength, if_pos rfl, if_neg (List.cons_ne_nil byte rest), List.tail_cons]

theorem literalLength_doubled (rest : List UInt8) :
    literalLength ('\''.toUInt8 :: '\''.toUInt8 :: rest) = 2 + literalLength rest := by
  rw [literalLength, if_neg (by decide), if_pos rfl, List.head?_cons, if_pos rfl, List.tail_cons]

theorem literalLength_quote {rest : List UInt8} (notDoubled : rest.head? ≠ some '\''.toUInt8) :
    literalLength ('\''.toUInt8 :: rest) = 1 := by
  rw [literalLength, if_neg (by decide), if_pos rfl, if_neg notDoubled]

theorem ne_quote_and_guard_of_le {byte : UInt8} (high : 128 ≤ byte.toNat) :
    byte ≠ '\''.toUInt8 ∧ byte ≠ '\\'.toUInt8 := by
  constructor <;> rintro rfl <;> exact absurd high (by decide)

/-- A literal goes on byte by byte where nothing quotes or guards. -/
theorem literalLength_append {front : List UInt8}
    (plain : ∀ byte ∈ front, byte ≠ '\''.toUInt8 ∧ byte ≠ '\\'.toUInt8) (rest : List UInt8) :
    literalLength (front ++ rest) = front.length + literalLength rest := by
  induction front with
  | nil => simp
  | cons byte front ih =>
      obtain ⟨notQuote, notGuard⟩ := plain byte (List.mem_cons_self ..)
      rw [List.cons_append, literalLength, if_neg notGuard, if_neg notQuote,
        ih fun other member => plain other (List.mem_cons_of_mem _ member), List.length_cons]
      omega

/-- **A literal has as many bytes for one reader as for the other.** -/
theorem literalLength_bytes (text : List Char) :
    literalLength (bytes text) = byteSize (literalBody text).1 := by
  fun_induction literalBody text with
  | case1 => rw [bytes_nil, literalLength, byteSize]
  | case2 guarded rest body after same ih =>
      -- The reader of bytes steps over the first byte of the guarded character only.
      obtain ⟨first, later, encoded, high⟩ := exists_utf8EncodeChar_eq_cons guarded
      have size := String.length_utf8EncodeChar guarded
      rw [encoded, List.length_cons] at size
      rw [same] at ih
      rw [bytes_cons_narrow (by decide), bytes_cons, encoded, List.cons_append, literalLength_guard,
        literalLength_append fun byte member => ne_quote_and_guard_of_le (high byte member), ih]
      simp only [byteSize, ← size]
      have narrow : '\\'.utf8Size = 1 := rfl
      omega
  | case3 rest body after same ih =>
      rw [same] at ih
      rw [bytes_cons_narrow (by decide), bytes_cons_narrow (by decide), literalLength_doubled, ih]
      simp only [byteSize]
      have narrow : '\''.utf8Size = 1 := rfl
      omega
  | case4 rest notDoubled =>
      rw [bytes_cons_narrow (by decide), literalLength_quote]
      · rfl
      · rw [ne_eq, head?_bytes_eq_iff (by decide)]
        intro isQuote
        obtain ⟨after, rfl⟩ := List.head?_eq_some_iff.1 isQuote
        exact notDoubled after rfl
  | case5 symbol rest notGuard notDoubled notQuote body after same ih =>
      rw [same] at ih
      by_cases isGuard : symbol = '\\'
      · cases rest with
        | nil =>
            cases same
            rw [isGuard, bytes_cons_narrow (by decide), bytes_nil, literalLength, if_pos rfl,
              if_pos rfl]
            rfl
        | cons next rest => exact absurd rfl (notGuard next rest isGuard)
      · have plain : ∀ byte ∈ String.utf8EncodeChar symbol,
            byte ≠ '\''.toUInt8 ∧ byte ≠ '\\'.toUInt8 := by
          intro byte member
          constructor
          · rintro rfl
            exact notQuote ((toUInt8_mem_iff (by decide)).1 member)
          · rintro rfl
            exact isGuard ((toUInt8_mem_iff (by decide)).1 member)
        rw [bytes_cons, literalLength_append plain, ih, String.length_utf8EncodeChar, byteSize]

/-! ## All literals -/

theorem literalSpansFrom_of_not {segment : Segment} (notLiteral : segment.isLiteral = false)
    (offset : Nat) (rest : List Segment) :
    literalSpansFrom offset (segment :: rest) =
      literalSpansFrom (offset + byteSize segment.characters) rest := by
  rw [literalSpansFrom_cons, notLiteral, if_neg Bool.false_ne_true]

variable {code : List Char} {place : Nat}

theorem literalsFrom?_append {front : List UInt8}
    (plain : ∀ byte ∈ front, byte ≠ '`'.toUInt8 ∧ byte ≠ '"'.toUInt8 ∧ byte ≠ '\''.toUInt8)
    (rest : List UInt8) :
    literalsFrom? code place (front ++ rest) = literalsFrom? code (place + front.length) rest := by
  induction front generalizing place with
  | nil => rfl
  | cons byte front ih =>
      obtain ⟨notTick, notDouble, notQuote⟩ := plain byte (List.mem_cons_self ..)
      rw [List.cons_append, literalsFrom?, if_neg (by simp [notTick, notDouble]), if_neg notQuote,
        ih fun other member => plain other (List.mem_cons_of_mem _ member), List.length_cons,
        Nat.add_assoc, Nat.add_comm 1]

theorem takeWhile_bytes {mark : Char} (narrow : mark.toNat < 128) {body : List Char}
    (absent : mark ∉ body) (rest : List UInt8) :
    (bytes body ++ rest).takeWhile (· != mark.toUInt8) =
      bytes body ++ rest.takeWhile (· != mark.toUInt8) := by
  apply List.takeWhile_append_of_pos
  intro byte member
  rw [bne_iff_ne]
  rintro rfl
  exact absent ((toUInt8_mem_bytes_iff narrow).1 member)

section Steps

variable {mark : Char} {body : List Char}

/-- A quoted segment is stepped over up to its closing mark. -/
theorem literalsFrom?_closed (marked : mark = '`' ∨ mark = '"') (absent : mark ∉ body)
    (after : List Char) :
    literalsFrom? code place (bytes ((Segment.closed mark body).characters ++ after)) =
      literalsFrom? code (place + byteSize (Segment.closed mark body).characters)
        (bytes after) := by
  have narrow : mark.toNat < 128 := by rcases marked with rfl | rfl <;> decide
  have one : mark.utf8Size = 1 := by rcases marked with rfl | rfl <;> rfl
  have upTo : lengthUpTo mark.toUInt8 (bytes (body ++ mark :: after)) = byteSize body := by
    rw [lengthUpTo, bytes_append, takeWhile_bytes narrow absent, bytes_cons_narrow narrow,
      List.takeWhile_cons_of_neg (by simp), List.append_nil, length_bytes]
  have size : byteSize (Segment.closed mark body).characters = byteSize body + 2 := by
    simp only [Segment.characters, List.cons_append, byteSize, byteSize_append, one]
    omega
  have whole : (Segment.closed mark body).characters ++ after =
      mark :: (body ++ mark :: after) := by
    simp [Segment.characters]
  rw [size, whole, bytes_cons_narrow narrow, literalsFrom?,
    if_pos (by rcases marked with rfl | rfl <;> simp), upTo, bytes_append,
    bytes_cons_narrow narrow, List.append_cons, List.drop_left' (by simp), Nat.add_assoc]

/-- A quoted segment that is not closed is stepped over up to the end of the code. -/
theorem literalsFrom?_unclosed (marked : mark = '`' ∨ mark = '"') (absent : mark ∉ body) :
    literalsFrom? code place (bytes (mark :: body)) = some [] := by
  have narrow : mark.toNat < 128 := by rcases marked with rfl | rfl <;> decide
  have upTo : lengthUpTo mark.toUInt8 (bytes body) = byteSize body := by
    have taken := takeWhile_bytes narrow absent []
    rw [List.append_nil, List.takeWhile_nil, List.append_nil] at taken
    rw [lengthUpTo, taken, length_bytes]
  rw [bytes_cons_narrow narrow, literalsFrom?,
    if_pos (by rcases marked with rfl | rfl <;> simp), upTo,
    List.drop_eq_nil_of_le (by simp), literalsFrom?]

/-- Whether a quote opens a literal can be told if its place is between characters. -/
theorem opensEmptyTable?_bytes {before rest : List Char}
    (whole : code = before.reverse ++ '\'' :: rest) (size : place = byteSize before.reverse) :
    opensEmptyTable? code place (bytes rest) =
      some (decide (rest.head? = some '\'' ∧ endsInTableMark before = true)) := by
  rw [opensEmptyTable?, whole, size, cut?_append]
  simp only [head?_bytes_eq_iff (show '\''.toNat < 128 by decide)]
  split
  case isTrue doubled => simp [doubled]
  case isFalse single => simp [single]

/-- The quotes of an empty table name are stepped over. -/
theorem literalsFrom?_emptyTable {after : List Char}
    (opens : opensEmptyTable? code place (bytes ('\'' :: after)) = some true) :
    literalsFrom? code place (bytes (Segment.emptyTable.characters ++ after)) =
      literalsFrom? code (place + byteSize Segment.emptyTable.characters) (bytes after) := by
  have whole : Segment.emptyTable.characters ++ after = '\'' :: '\'' :: after := rfl
  rw [whole, bytes_cons_narrow (by decide), literalsFrom?, if_neg (by decide), if_pos rfl, opens,
    bytes_cons_narrow (by decide)]
  rfl

/-- A literal is stepped over up to where it ends. -/
theorem literalsFrom?_literal {rest : List Char}
    (opens : opensEmptyTable? code place (bytes rest) = some false) :
    literalsFrom? code place (bytes ('\'' :: rest)) =
      (literalsFrom? code (place + byteSize (Segment.literal (literalBody rest).1).characters)
        (bytes (literalBody rest).2)).map
          (⟨place, place + byteSize (Segment.literal (literalBody rest).1).characters⟩ :: ·) := by
  have size : byteSize (Segment.literal (literalBody rest).1).characters =
      1 + literalLength (bytes rest) := by
    rw [literalLength_bytes]
    rfl
  have behind : (bytes rest).drop (literalLength (bytes rest)) = bytes (literalBody rest).2 := by
    rw [literalLength_bytes]
    have whole := congrArg bytes (literalBody_append rest)
    rw [bytes_append] at whole
    rw [← whole, List.drop_left' (length_bytes _)]
  rw [bytes_cons_narrow (by decide), literalsFrom?, if_neg (by decide), if_pos rfl, opens, size,
    behind, Nat.add_assoc]

/-- Any other character is stepped over, byte by byte. -/
theorem literalsFrom?_plain {symbol : Char} (notMark : ¬ (symbol = '`' ∨ symbol = '"'))
    (notQuote : symbol ≠ '\'') (rest : List Char) :
    literalsFrom? code place (bytes (symbol :: rest)) =
      literalsFrom? code (place + byteSize (Segment.plain symbol).characters) (bytes rest) := by
  rw [bytes_cons, literalsFrom?_append, String.length_utf8EncodeChar]
  · rfl
  · intro byte member
    refine ⟨?_, ?_, ?_⟩ <;> rintro rfl
    · exact notMark (.inl ((toUInt8_mem_iff (by decide)).1 member))
    · exact notMark (.inr ((toUInt8_mem_iff (by decide)).1 member))
    · exact notQuote ((toUInt8_mem_iff (by decide)).1 member)

end Steps

/-- **The reader of bytes finds the literals**, from any place where a segment begins. -/
theorem literalsFrom?_bytes {before text : List Char} (whole : code = before.reverse ++ text)
    (size : place = byteSize before.reverse) :
    literalsFrom? code place (bytes text) =
      some (literalSpansFrom place (segmentsFrom before text)) := by
  fun_induction segmentsFrom before text generalizing place with
  | case1 before =>
      rw [bytes_nil, literalsFrom?]
      rfl
  | case2 before symbol rest marked isOpen =>
      rw [literalsFrom?_unclosed marked (closedBody?_eq_none_iff.1 isOpen),
        literalSpansFrom_of_not rfl]
      rfl
  | case3 before symbol rest marked body after found ih =>
      have cut : symbol :: rest = (Segment.closed symbol body).characters ++ after := by
        simp [Segment.characters, ← closedBody?_append found]
      rw [cut, literalsFrom?_closed marked (notMem_of_closedBody? found),
        literalSpansFrom_of_not rfl]
      refine ih ?_ ?_
      · rw [whole, cut]
        simp [Segment.characters]
      · rw [size]
        simp [Segment.characters, byteSize]
  | case4 before rest isEmpty notMark ih =>
      obtain ⟨after, rfl⟩ := List.head?_eq_some_iff.1 isEmpty.1
      have opens := opensEmptyTable?_bytes whole size
      rw [decide_eq_true isEmpty] at opens
      have cut : '\'' :: '\'' :: after = Segment.emptyTable.characters ++ after := rfl
      rw [cut, literalsFrom?_emptyTable opens, literalSpansFrom_of_not rfl]
      refine ih ?_ ?_
      · simp [whole]
      · rw [size]
        simp [Segment.characters, byteSize]
  | case5 before rest notEmpty notMark ih =>
      have opens := opensEmptyTable?_bytes whole size
      rw [decide_eq_false notEmpty] at opens
      rw [literalsFrom?_literal opens, literalSpansFrom_cons]
      rw [ih]
      · rfl
      · rw [whole]
        simp [literalBody_append]
      · rw [size]
        simp [Segment.characters, byteSize]
  | case6 before symbol rest notMark notQuote ih =>
      rw [literalsFrom?_plain notMark notQuote, literalSpansFrom_of_not rfl]
      refine ih ?_ ?_
      · simp [whole]
      · rw [size]
        simp [Segment.characters, byteSize]

/-! ## Blanking out -/

/-- A segment with a literal replaced by as many blanks as it has bytes. -/
def Segment.blanked (segment : Segment) : List Char :=
  if segment.isLiteral then List.replicate (byteSize segment.characters) ' '
  else segment.characters

/-- A text with blanks written over spans, one after the other. -/
def blankOut? (spans : List Span) (text : List Char) : Option (List Char) :=
  spans.foldlM
    (fun text span => splice? span (List.replicate (span.stop - span.start) ' ') text) text

theorem bytes_blanks (size : Nat) :
    bytes (List.replicate size ' ') = List.replicate size ' '.toUInt8 := by
  induction size with
  | zero => rfl
  | succ size ih =>
      rw [List.replicate_succ, bytes_cons_narrow (by decide), ih, List.replicate_succ]

theorem byteSize_blanked (segment : Segment) :
    byteSize segment.blanked = byteSize segment.characters := by
  rw [Segment.blanked]
  split
  · rw [← length_bytes, bytes_blanks, List.length_replicate]
  · rfl

theorem byteSize_flatMap_blanked (segments : List Segment) :
    byteSize (segments.flatMap Segment.blanked) =
      byteSize (segments.flatMap Segment.characters) := by
  induction segments with
  | nil => rfl
  | cons segment rest ih =>
      rw [List.flatMap_cons, List.flatMap_cons, byteSize_append, byteSize_append,
        byteSize_blanked, ih]

/-- Writing blanks over a literal leaves the literals after it where they are. -/
theorem blankOut?_literalSpansFrom (front : List Char) (segments : List Segment) :
    blankOut? (literalSpansFrom (byteSize front) segments)
        (front ++ segments.flatMap Segment.characters) =
      some (front ++ segments.flatMap Segment.blanked) := by
  induction segments generalizing front with
  | nil => rfl
  | cons segment rest ih =>
      have ofRest := ih (front ++ segment.blanked)
      rw [byteSize_append, byteSize_blanked, List.append_assoc, List.append_assoc] at ofRest
      rw [literalSpansFrom_cons, List.flatMap_cons, List.flatMap_cons]
      cases isLiteral : segment.isLiteral with
      | true =>
          have blanks : List.replicate (byteSize segment.characters) ' ' = segment.blanked := by
            rw [Segment.blanked, if_pos isLiteral]
          rw [if_pos rfl, blankOut?, List.foldlM_cons, ← List.append_assoc,
            Nat.add_sub_cancel_left, blanks, splice?_append, List.append_assoc]
          exact ofRest
      | false =>
          have kept : segment.blanked = segment.characters := by
            rw [Segment.blanked, if_neg (by simp [isLiteral])]
          rw [kept] at ofRest ⊢
          exact ofRest

/-- A byte of blanked-out code is a blank where a literal holds it, and what it was elsewhere. -/
theorem getElem?_bytes_blanked (offset place : Nat) (segments : List Segment) :
    (bytes (segments.flatMap Segment.blanked))[place]? =
      if (literalSpansFrom offset segments).any (·.holds (offset + place)) then some ' '.toUInt8
      else (bytes (segments.flatMap Segment.characters))[place]? := by
  induction segments generalizing offset place with
  | nil => rfl
  | cons segment rest ih =>
      have size := byteSize_blanked segment
      rw [literalSpansFrom_cons, List.flatMap_cons, List.flatMap_cons, bytes_append, bytes_append]
      by_cases inside : place < byteSize segment.characters
      · have noLater := any_holds_eq_false rest
          (show offset + place < offset + byteSize segment.characters by omega)
        rw [List.getElem?_append_left (by rwa [length_bytes, size]),
          List.getElem?_append_left (by rwa [length_bytes]), Segment.blanked]
        cases segment.isLiteral with
        | true => simp [bytes_blanks, Span.holds, inside]
        | false => simp [noLater]
      · obtain ⟨later, rfl⟩ := Nat.exists_eq_add_of_le (Nat.not_lt.1 inside)
        have past : Span.holds ⟨offset, offset + byteSize segment.characters⟩
            (offset + (byteSize segment.characters + later)) = false := by
          simp [Span.holds]
        rw [List.getElem?_append_right (by simp [size]), List.getElem?_append_right (by simp),
          length_bytes, length_bytes, size, Nat.add_sub_cancel_left,
          ih (offset + byteSize segment.characters) later, Nat.add_assoc]
        cases segment.isLiteral with
        | true => simp [past]
        | false => rfl

/-! ## Cutting literals out -/

/-- **Literals can be cut out of code.** The reader of bytes finds the same spans as the reader of
characters, and never cuts the code within a character; the spans can be cut out; and
blanking them out one after the other succeeds, gives the code in which words that write are
searched for, and changes just the bytes that a literal holds. -/
theorem literals_cutOut (code : List Char) :
    literalsFrom? code 0 (bytes code) = some (literalSpans code) ∧
      CutOut code (literalSpans code) ∧
      blankOut? (literalSpans code) code = some (withoutLiterals code) ∧
      byteSize (withoutLiterals code) = byteSize code ∧
      ∀ place, (bytes (withoutLiterals code))[place]? =
        if (literalSpans code).any (·.holds place) then some ' '.toUInt8
        else (bytes code)[place]? := by
  have whole := flatMap_segments code
  have blanks : withoutLiterals code = (segments code).flatMap Segment.blanked := rfl
  refine ⟨literalsFrom?_bytes rfl rfl, ?_, ?_, ?_, ?_⟩
  · have cut : CutOut _ (literalSpans code) := cutOut_of_sublist
      (fun segment _ => segment.characters_ne_nil) ((List.filter_sublist ..).map Prod.fst)
    rwa [whole] at cut
  · have blanked := blankOut?_literalSpansFrom [] (segments code)
    rw [List.nil_append, whole] at blanked
    exact blanked
  · rw [blanks, byteSize_flatMap_blanked, whole]
  · intro place
    have ofByte := getElem?_bytes_blanked 0 place (segments code)
    rw [whole, Nat.zero_add] at ofByte
    exact ofByte

end Inquiry.Code
