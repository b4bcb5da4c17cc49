import Inquiry.Proofs.Parts
import Inquiry.Proofs.Segments
import Mathlib.Data.List.Basic

/-!
# Where scanning and quoting part

Code is read twice.  Segments say where its quotes and literals are, tokens say
where its mentions are, and a mention is a reference unless it begins in a
literal.  The two readers should agree: a table between backticks outside other
quotes is a reference with just that span, and no reference runs into a literal.

They need not.  The reader of tokens knows nothing of quotes, so an open mark
in a literal or in another quoted name, right before the mark of tables, pairs
with a mark far behind it.  What stands between is read across, whether the
mention counts or not.  A table is overlooked exactly when a mention is read
across its first backtick, and a reference runs into a literal exactly when it
is read across its first quote (`scan_agrees`).  Neither happens in aligned
code, where each such mark is closed within its segment or never.
-/

set_option autoImplicit false

namespace Inquiry.Code

open Inquiry.Text

/-! ## Tokens, one by one -/

/-- Reading goes on from where a token ends. -/
theorem tokensFrom_resume {before text : List Char} {front back : List Token}
    (cut : tokensFrom before text = front ++ back) :
    tokensFrom ((front.flatMap Token.characters).reverse ++ before)
      (back.flatMap Token.characters) = back := by
  induction front generalizing before text with
  | nil =>
      have whole := flatMap_tokensFrom before text
      rw [cut, List.nil_append] at whole
      rw [List.flatMap_nil, whole]
      exact cut
  | cons token front ih =>
      rw [List.flatMap_cons, List.reverse_append, List.append_assoc]
      cases text with
      | nil =>
          rw [tokensFrom] at cut
          cases cut
      | cons symbol rest =>
          cases found : mentionAt? before.head? (symbol :: rest) with
          | none =>
              rw [tokensFrom_of_none found] at cut
              obtain ⟨rfl, ofRest⟩ := List.cons.inj cut
              exact ih ofRest
          | some read =>
              rw [tokensFrom_of_mention found] at cut
              obtain ⟨rfl, ofRest⟩ := List.cons.inj cut
              exact ih ofRest

/-- A mention that is read stands where it is read. -/
theorem stands_of_tokensFrom {before text : List Char} {front back : List Token}
    {mention : Mention} {expected : Bool}
    (cut : tokensFrom before text = front ++ .mention mention expected :: back) :
    mention.StandsBetween ((front.flatMap Token.characters).reverse ++ before).head?
      (back.flatMap Token.characters) := by
  have resumed := tokensFrom_resume cut
  generalize (front.flatMap Token.characters).reverse ++ before = before at resumed ⊢
  rw [List.flatMap_cons] at resumed
  cases found : mentionAt? before.head? (mention.characters ++ back.flatMap Token.characters) with
  | none =>
      obtain ⟨symbol, rest, cons, -⟩ := mention.exists_characters_eq_cons
      rw [cons, List.cons_append] at found
      rw [Token.characters, cons, List.cons_append, tokensFrom_of_none found] at resumed
      cases resumed
  | some read =>
      obtain ⟨other, after⟩ := read
      rw [Token.characters, tokensFrom_of_mention found] at resumed
      obtain ⟨same, -⟩ := List.cons.inj resumed
      cases same
      obtain ⟨whole, stands⟩ := mentionAt?_eq_some_iff.1 found
      rw [List.append_cancel_left whole]
      exact stands

/-! ## Mentions across a place -/

/-- A mention is read across a place: it begins in front of it and ends behind it. -/
def ReadAcross (code : List Char) (offset : Nat) : Prop :=
  ∃ span mention expected,
    (span, Token.mention mention expected) ∈ layOut Token.characters 0 (tokens code) ∧
      span.start < offset ∧ offset < span.stop

/-- A place in code is between two tokens or in a mention. -/
theorem exists_cut_or_mention {tokens : List Token} {before rest : List Char}
    (whole : tokens.flatMap Token.characters = before ++ rest) :
    (∃ front back, tokens = front ++ back ∧ front.flatMap Token.characters = before) ∨
      ∃ front mention expected back first second,
        tokens = front ++ .mention mention expected :: back ∧
          before = front.flatMap Token.characters ++ first ∧
          mention.characters = first ++ second ∧ first ≠ [] ∧ second ≠ [] := by
  induction tokens generalizing before with
  | nil =>
      obtain ⟨rfl, rfl⟩ := List.append_eq_nil_iff.1 whole.symm
      exact .inl ⟨[], [], rfl, rfl⟩
  | cons token tokens ih =>
      rw [List.flatMap_cons] at whole
      rcases List.append_eq_append_iff.1 whole with ⟨between, rfl, ofRest⟩ | ⟨second, inside, -⟩
      · rcases ih ofRest with ⟨front, back, rfl, rfl⟩ |
          ⟨front, mention, expected, back, first, second, rfl, rfl, inside, notFirst, notSecond⟩
        · exact .inl ⟨token :: front, back, rfl, rfl⟩
        · exact .inr ⟨token :: front, mention, expected, back, first, second, rfl,
            by simp, inside, notFirst, notSecond⟩
      · by_cases notFirst : before = []
        · exact .inl ⟨[], token :: tokens, rfl, notFirst.symm⟩
        by_cases notSecond : second = []
        · exact .inl ⟨[token], tokens, rfl, by simp [inside, notSecond]⟩
        cases token with
        | plain symbol =>
            have long := congrArg List.length inside
            have ofFirst := List.length_pos_iff.2 notFirst
            have ofSecond := List.length_pos_iff.2 notSecond
            simp only [Token.characters, List.length_singleton, List.length_append] at long
            omega
        | mention mention expected =>
            exact .inr ⟨[], mention, expected, tokens, before, second, rfl, by simp, inside,
              notFirst, notSecond⟩

/-- A mention is read across a place when the place cuts its characters in two. -/
theorem readAcross_iff {before rest : List Char} :
    ReadAcross (before ++ rest) (byteSize before) ↔
      ∃ front mention expected back first second,
        tokens (before ++ rest) = front ++ .mention mention expected :: back ∧
          before = front.flatMap Token.characters ++ first ∧
          mention.characters = first ++ second ∧ first ≠ [] ∧ second ≠ [] := by
  constructor
  · rintro ⟨span, mention, expected, member, begins, ends⟩
    obtain ⟨front, back, cut, rfl⟩ := mem_layOut_iff.1 member
    have whole := flatMap_tokensFrom [] (before ++ rest)
    rw [← tokens, cut, List.flatMap_append, List.flatMap_cons, Token.characters] at whole
    have ofFront : front.flatMap Token.characters <+: before ++ rest := ⟨_, whole⟩
    have ofMention : front.flatMap Token.characters ++ mention.characters <+: before ++ rest :=
      ⟨_, by rw [List.append_assoc]; exact whole⟩
    have ofBefore : before <+: before ++ rest := ⟨rest, rfl⟩
    simp only [Token.characters, Nat.zero_add] at begins ends
    obtain ⟨first, rfl⟩ := isPrefix_of_byteSize_le ofFront ofBefore (Nat.le_of_lt begins)
    obtain ⟨second, same⟩ := isPrefix_of_byteSize_le ofBefore ofMention
      (by rw [byteSize_append _ mention.characters]; exact Nat.le_of_lt ends)
    rw [List.append_assoc, List.append_cancel_left_eq] at same
    refine ⟨front, mention, expected, back, first, second, cut, rfl, same.symm, ?_, ?_⟩
    · rintro rfl
      simp at begins
    · rintro rfl
      rw [← same] at ends
      simp at ends
  · rintro ⟨front, mention, expected, back, first, second, cut, same, inside, notFirst, notSecond⟩
    refine ⟨_, mention, expected, mem_layOut_iff.2 ⟨front, back, cut, rfl⟩, ?_, ?_⟩
    · have positive := byteSize_pos notFirst
      rw [same, byteSize_append]
      dsimp only
      omega
    · have positive := byteSize_pos notSecond
      rw [same, byteSize_append, Token.characters, inside, byteSize_append]
      dsimp only
      omega

/-- Reading begins anew at a place that no mention is read across. -/
theorem exists_tokens_of_not_readAcross {before rest : List Char}
    (notAcross : ¬ ReadAcross (before ++ rest) (byteSize before)) :
    ∃ front, front.flatMap Token.characters = before ∧
      tokens (before ++ rest) = front ++ tokensFrom before.reverse rest := by
  have whole := flatMap_tokensFrom [] (before ++ rest)
  rcases exists_cut_or_mention whole with ⟨front, back, cut, rfl⟩ | inside
  · refine ⟨front, rfl, ?_⟩
    have resumed := tokensFrom_resume cut
    rw [cut, List.flatMap_append, List.append_cancel_left_eq] at whole
    rw [whole, List.append_nil] at resumed
    rw [tokens, cut, resumed]
  · exact absurd (readAcross_iff.2 inside) notAcross

/-! ## References and segments -/

variable {catalog : Catalog} {code : List Char}

/-- A reference is a mention that counts and begins in no literal. -/
theorem mem_scan_iff {reference : Reference} :
    reference ∈ scan catalog code ↔
      ∃ expected, (reference.span, Token.mention reference.mention expected) ∈
          layOut Token.characters 0 (tokens code) ∧
        (∀ literal ∈ literalSpans code, literal.holds reference.span.start = false) ∧
        counts catalog expected reference.mention = true := by
  rw [scan, List.mem_filterMap]
  constructor
  · rintro ⟨piece, inPieces, isReference⟩
    obtain ⟨⟨span, token⟩, member, rfl⟩ := List.mem_map.1 inPieces
    cases token with
    | plain symbol => cases isReference
    | mention mention expected =>
        simp only [pieceOf] at isReference
        split at isReference
        case isTrue counted =>
          cases isReference
          rw [Bool.and_eq_true, Bool.not_eq_true', List.any_eq_false] at counted
          exact ⟨expected, member, fun literal found => by simpa using counted.1 literal found,
            counted.2⟩
        case isFalse => cases isReference
  · rintro ⟨expected, member, outside, counted⟩
    refine ⟨.reference reference, List.mem_map.2 ⟨_, member, ?_⟩, rfl⟩
    have notHeld : (literalSpans code).any (·.holds reference.span.start) = false := by
      rw [List.any_eq_false]
      intro literal found
      simp [outside literal found]
    simp [pieceOf, notHeld, counted]

theorem mem_literalSpans_iff {literal : Span} :
    literal ∈ literalSpans code ↔
      ∃ body, (literal, Segment.literal body) ∈ layOut Segment.characters 0 (segments code) := by
  rw [literalSpans, List.mem_map]
  constructor
  · rintro ⟨⟨span, segment⟩, member, rfl⟩
    obtain ⟨inLayOut, isLiteral⟩ := List.mem_filter.1 member
    cases segment with
    | literal body => exact ⟨body, inLayOut⟩
    | plain | closed | unclosed | emptyTable => cases isLiteral
  · rintro ⟨body, member⟩
    exact ⟨_, List.mem_filter.2 ⟨member, rfl⟩, rfl⟩

/-- A table between backticks outside other quotes is a reference, with just that span, exactly
when no mention is read across its first backtick. -/
theorem mem_scan_iff_not_readAcross {span : Span} {identifier : List Char}
    (member : (span, Segment.closed '`' (tableMark ++ identifier)) ∈
      layOut Segment.characters 0 (segments code)) :
    ⟨span, .backtick identifier⟩ ∈ scan catalog code ↔ ¬ ReadAcross code span.start := by
  constructor
  · rintro inScan ⟨across, mention, expected, acrossMember, begins, ends⟩
    obtain ⟨expected', own, -⟩ := mem_scan_iff.1 inScan
    have holds : across.holds span.start = true := by
      simp only [Span.holds, Bool.and_eq_true, decide_eq_true_eq]
      omega
    obtain ⟨rfl, -⟩ := eq_of_holds_start own acrossMember (List.cons_ne_nil _ _) holds
    omega
  · intro notAcross
    have outside : ∀ literal ∈ literalSpans code, literal.holds span.start = false := by
      intro literal found
      obtain ⟨body, literalMember⟩ := mem_literalSpans_iff.1 found
      apply Bool.eq_false_iff.2
      intro holds
      obtain ⟨-, same⟩ := eq_of_holds_start member literalMember (List.cons_ne_nil _ _) holds
      cases same
    obtain ⟨front, back, cut, rfl⟩ := mem_layOut_iff.1 member
    have stands := stands_of_segmentsFrom cut
    have whole := flatMap_segments code
    rw [cut, List.flatMap_append, List.flatMap_cons] at whole
    have noTick : '`' ∉ identifier := by
      intro ticked
      exact stands.2 (List.mem_append_right _ ticked)
    generalize front.flatMap Segment.characters = before at *
    generalize back.flatMap Segment.characters = after at *
    have mentioned : (Segment.closed '`' (tableMark ++ identifier)).characters =
        (Mention.backtick identifier).characters := rfl
    rw [mentioned] at whole outside ⊢
    rw [← whole, Nat.zero_add] at notAcross
    obtain ⟨tokens', rfl, tokensCut⟩ := exists_tokens_of_not_readAcross notAcross
    have found : mentionAt? (tokens'.flatMap Token.characters).reverse.head?
        ((Mention.backtick identifier).characters ++ after) =
          some (.backtick identifier, after) := mentionAt?_eq_some_iff.2 ⟨rfl, noTick⟩
    rw [tokensFrom_of_mention found, whole] at tokensCut
    exact mem_scan_iff.2 ⟨_, mem_layOut_iff.2 ⟨tokens', _, tokensCut, rfl⟩, outside, rfl⟩

/-- Two spans overlap. -/
def Overlap (first second : Span) : Prop := first.start < second.stop ∧ second.start < first.stop

/-- A reference overlaps a literal exactly when it is read across its first quote. -/
theorem overlap_iff {reference : Reference} (inScan : reference ∈ scan catalog code)
    {literal : Span} (found : literal ∈ literalSpans code) :
    Overlap reference.span literal ↔
      reference.span.start < literal.start ∧ literal.start < reference.span.stop := by
  obtain ⟨-, -, outside, -⟩ := mem_scan_iff.1 inScan
  have notHeld := outside literal found
  obtain ⟨body, member⟩ := mem_literalSpans_iff.1 found
  obtain ⟨front, back, -, rfl⟩ := mem_layOut_iff.1 member
  simp only [Span.holds, Bool.and_eq_false_iff, decide_eq_false_iff_not] at notHeld
  simp only [Overlap]
  omega

theorem readAcross_of_reference {reference : Reference} (inScan : reference ∈ scan catalog code)
    {offset : Nat} (begins : reference.span.start < offset) (ends : offset < reference.span.stop) :
    ReadAcross code offset := by
  obtain ⟨expected, member, -⟩ := mem_scan_iff.1 inScan
  exact ⟨_, _, expected, member, begins, ends⟩

/-! ## Aligned code -/

/-- Whether a mark in a text, right before the mark of tables, is first closed behind the text. -/
def opensPast (later : List Char) : List Char → Bool
  | [] => false
  | symbol :: rest =>
      (isMark symbol && tableMark.isPrefixOf (rest ++ later) && !rest.contains symbol &&
        later.contains symbol) || opensPast later rest

/-- Whether a segment is a literal although its first two quotes are read as those of an empty
table name; the code in front is given from its end. -/
def Segment.splitsTable (before : List Char) : Segment → Bool
  | .literal body =>
      body.head? = some '\'' &&
        match tableMark.reverse.isPrefixOf? before with
        | none => false
        | some earlier => startsWordAfter earlier.head?
  | _ => false

/-- Whether segments are read alike by the reader of tokens. -/
def alignedFrom (before : List Char) : List Segment → Bool
  | [] => true
  | segment :: rest =>
      !opensPast (rest.flatMap Segment.characters) segment.characters.tail &&
        !segment.splitsTable before && alignedFrom (segment.characters.reverse ++ before) rest

/-- Whether no mark within or at the end of a segment pairs with one behind the segment, and no
literal is read as an empty table name. -/
def isAligned (code : List Char) : Bool := alignedFrom [] (segments code)

theorem opensPast_append {front back later : List Char} {mark : Char} (marked : isMark mark = true)
    (begins : tableMark <+: back ++ later) (absent : mark ∉ back) (closed : mark ∈ later) :
    opensPast later (front ++ mark :: back) = true := by
  induction front with
  | nil =>
      have isPrefix := List.isPrefixOf_iff_prefix.2 begins
      simp [opensPast, marked, isPrefix, absent, closed]
  | cons symbol front ih => rw [List.cons_append, opensPast, ih, Bool.or_true]

theorem of_alignedFrom {before : List Char} {front back : List Segment} {segment : Segment}
    (aligned : alignedFrom before (front ++ segment :: back) = true) :
    opensPast (back.flatMap Segment.characters) segment.characters.tail = false ∧
      segment.splitsTable ((front.flatMap Segment.characters).reverse ++ before) = false := by
  induction front generalizing before with
  | nil =>
      simp only [List.nil_append, alignedFrom, Bool.and_eq_true, Bool.not_eq_true'] at aligned
      exact aligned.1
  | cons first front ih =>
      simp only [List.cons_append, alignedFrom, Bool.and_eq_true] at aligned
      simpa using ih aligned.2

/-- A character of segments is a character of one of them. -/
theorem exists_segment_of_cons {segments : List Segment} {before later : List Char} {symbol : Char}
    (whole : segments.flatMap Segment.characters = before ++ symbol :: later) :
    ∃ front segment back inner outer, segments = front ++ segment :: back ∧
      before = front.flatMap Segment.characters ++ inner ∧
      segment.characters = inner ++ symbol :: outer ∧
      later = outer ++ back.flatMap Segment.characters := by
  induction segments generalizing before with
  | nil => simp at whole
  | cons segment segments ih =>
      rw [List.flatMap_cons] at whole
      rcases cut_of_append whole with ⟨outer, inside⟩ | ⟨between, rfl⟩
      · rw [inside, List.append_assoc, List.append_cancel_left_eq] at whole
        exact ⟨[], segment, segments, before, outer, rfl, rfl, inside,
          (List.cons.inj whole).2.symm⟩
      · rw [List.append_assoc, List.append_cancel_left_eq] at whole
        obtain ⟨front, other, back, inner, outer, rfl, rfl, inside, same⟩ := ih whole
        exact ⟨segment :: front, other, back, inner, outer, rfl, by simp, inside, same⟩

section Aligned

variable {front back : List Segment} {segment : Segment}

/-- In aligned code a quoted name ends in the segment in which it begins. -/
theorem not_across_of_quoted (aligned : isAligned code = true)
    (cut : segments code = front ++ segment :: back) {before name first second after : List Char}
    {mark : Char} (marked : isMark mark = true) (absent : mark ∉ name)
    (ofFront : front.flatMap Segment.characters = before ++ mark :: first)
    (inside : tableMark ++ name ++ [mark] = first ++ second) (notSecond : second ≠ [])
    (behind : segment.characters ++ back.flatMap Segment.characters = second ++ after) : False := by
  obtain ⟨front', holding, rest, inner, outer, rfl, -, held, rfl⟩ := exists_segment_of_cons ofFront
  have notInTable : mark ∉ tableMark := by
    rcases isMark_iff.1 marked with rfl | rfl <;> decide
  have notBefore : mark ∉ outer ++ rest.flatMap Segment.characters := by
    have notName : mark ∉ tableMark ++ name := by simp [notInTable, absent]
    rcases List.append_eq_append_iff.1 inside with ⟨between, same, single⟩ | ⟨between, same, -⟩
    · have noBetween : between = [] := by
        cases between with
        | nil => rfl
        | cons symbol between =>
            have none := (List.cons.inj single).2
            exact absurd (List.append_eq_nil_iff.1 none.symm).2 notSecond
      rw [same, noBetween, List.append_nil]
      exact notName
    · rw [same] at notName
      intro member
      exact notName (List.mem_append_left _ member)
  have wholeCut : segments code = front' ++ holding :: (rest ++ segment :: back) := by
    rw [cut, List.append_assoc, List.cons_append]
  have later : outer ++ (rest ++ segment :: back).flatMap Segment.characters =
      tableMark ++ name ++ mark :: after := by
    rw [List.flatMap_append, List.flatMap_cons, behind, ← List.append_assoc, ← List.append_assoc,
      ← inside, List.append_assoc]
    rfl
  have notOuter : mark ∉ outer := by
    intro member
    exact notBefore (List.mem_append_left _ member)
  have closed : mark ∈ (rest ++ segment :: back).flatMap Segment.characters := by
    have member : mark ∈ tableMark ++ name ++ mark :: after :=
      List.mem_append_right _ (List.mem_cons_self ..)
    rw [← later] at member
    exact (List.mem_append.1 member).resolve_left notOuter
  cases inner with
  | cons symbol inner =>
      rw [isAligned, wholeCut] at aligned
      have notPast := (of_alignedFrom aligned).1
      rw [held, List.cons_append, List.tail_cons, opensPast_append marked
        ⟨name ++ mark :: after, by rw [later, List.append_assoc]⟩ notOuter closed] at notPast
      cases notPast
  | nil =>
      have stands := stands_of_segmentsFrom wholeCut
      cases holding with
      | plain symbol =>
          obtain ⟨rfl, -⟩ := List.cons.inj held
          rw [stands.1] at marked
          cases marked
      | closed mark' body =>
          obtain ⟨rfl, rfl⟩ := List.cons.inj held
          exact notOuter (List.mem_append_right _ (List.mem_singleton.2 rfl))
      | unclosed mark' body =>
          rw [stands.2.2] at closed
          cases closed
      | emptyTable | literal =>
          obtain ⟨rfl, -⟩ := List.cons.inj held
          cases marked

/-- Only an empty table name ends in a quote before another quote. -/
theorem eq_emptyTable_of_quotes {last : Segment} {before after : List Char}
    (stands : last.StandsBetween before ('\'' :: after))
    (ends : last.characters.getLast? = some '\'') : last = .emptyTable := by
  cases last with
  | plain symbol =>
      obtain rfl := Option.some.inj ends
      exact absurd rfl stands.2
  | closed mark body =>
      rw [Segment.characters, List.getLast?_concat] at ends
      obtain rfl := Option.some.inj ends
      exact absurd stands.1 (by decide)
  | unclosed mark body => cases stands.2.2
  | emptyTable => rfl
  | literal body =>
      have read : literalBody (body ++ '\'' :: after) = _ := stands
      have notQuote := head?_literalBody (body ++ '\'' :: after)
      rw [read] at notQuote
      exact absurd rfl notQuote

/-- An empty table name that runs into a literal does so with both of its quotes or the second. -/
theorem cut_of_emptyLiteral {first second after later : List Char}
    (inside : tableMark ++ ['\'', '\''] = first ++ second) (notSecond : second ≠ [])
    (behind : '\'' :: later = second ++ after) :
    first = tableMark ∧ second = ['\'', '\''] ∨
      first = tableMark ++ ['\''] ∧ second = ['\''] := by
  obtain ⟨symbol, second, rfl⟩ := List.exists_cons_of_ne_nil notSecond
  obtain ⟨rfl, -⟩ := List.cons.inj behind
  rcases List.append_eq_append_iff.1 inside with ⟨between, rfl, same⟩ | ⟨between, same, ofSecond⟩
  · match between, same with
    | [], same => exact .inl ⟨List.append_nil _, same.symm⟩
    | [quote], same =>
        obtain ⟨rfl, single⟩ := List.cons.inj same
        exact .inr ⟨rfl, single.symm⟩
    | _ :: _ :: between, same => simp at same
  · cases between with
    | nil => exact .inl ⟨(List.append_nil first).symm.trans same.symm, ofSecond⟩
    | cons symbol between =>
        obtain ⟨rfl, -⟩ := List.cons.inj ofSecond
        have inTable : '\'' ∈ tableMark := same ▸ List.mem_append_right _ (List.mem_cons_self ..)
        exact absurd inTable (by decide)

/-- In aligned code no empty table name runs into a literal. -/
theorem not_across_of_emptyLiteral (aligned : isAligned code = true) {body : List Char}
    (cut : segments code = front ++ .literal body :: back) {before first second after : List Char}
    (starts : startsWordAfter before.reverse.head? = true)
    (ofFront : front.flatMap Segment.characters = before ++ first)
    (inside : tableMark ++ ['\'', '\''] = first ++ second) (notSecond : second ≠ [])
    (behind : (Segment.literal body).characters ++ back.flatMap Segment.characters =
      second ++ after) : False := by
  have stands := stands_of_segmentsFrom cut
  rcases cut_of_emptyLiteral inside notSecond behind with ⟨rfl, rfl⟩ | ⟨rfl, rfl⟩
  · have ofBody : body ++ back.flatMap Segment.characters = '\'' :: after :=
      (List.cons.inj behind).2
    have notEmpty : body ≠ [] := by
      have read : literalBody (body ++ back.flatMap Segment.characters) = _ := stands
      have hasBody := literalBody_ne_nil (ofBody ▸ List.cons_ne_nil '\'' after)
      rw [read] at hasBody
      exact hasBody
    obtain ⟨symbol, rest, rfl⟩ := List.exists_cons_of_ne_nil notEmpty
    obtain ⟨rfl, -⟩ := List.cons.inj ofBody
    rw [isAligned, cut] at aligned
    have notSplit := (of_alignedFrom aligned).2
    have found : tableMark.reverse.isPrefixOf? (tableMark.reverse ++ before.reverse) =
        some before.reverse := isPrefixOf?_eq_some_iff.2 rfl
    rw [ofFront, List.append_nil, List.reverse_append, Segment.splitsTable, found] at notSplit
    simp only [List.head?_cons, decide_true, Bool.true_and, starts] at notSplit
    cases notSplit
  · have notEmpty : front ≠ [] := by
      rintro rfl
      simp [tableMark] at ofFront
    obtain ⟨front, last, rfl⟩ := List.eq_nil_or_concat front |>.resolve_left notEmpty
    rw [List.concat_eq_append, List.append_assoc, List.singleton_append] at cut
    have standsLast := stands_of_segmentsFrom cut
    rw [List.flatMap_cons, Segment.characters, List.cons_append] at standsLast
    rw [List.concat_eq_append, List.flatMap_append, List.flatMap_singleton] at ofFront
    have ends : last.characters.getLast? = some '\'' := by
      have same := congrArg List.getLast? ofFront
      rw [List.getLast?_append_of_ne_nil _ last.characters_ne_nil] at same
      simpa using same
    obtain rfl := eq_emptyTable_of_quotes standsLast ends
    have reversed := congrArg List.reverse ofFront
    simp [Segment.characters, tableMark] at reversed

/-- **In aligned code no mention is read across the first quote of a literal or the first backtick
of a quoted name.** -/
theorem not_readAcross_of_isAligned (aligned : isAligned code = true)
    (cut : segments code = front ++ segment :: back)
    (opens : (∃ body, segment = .closed '`' body) ∨ ∃ body, segment = .literal body) :
    ¬ ReadAcross code (byteSize (front.flatMap Segment.characters)) := by
  intro across
  have whole := flatMap_segments code
  rw [cut, List.flatMap_append, List.flatMap_cons] at whole
  rw [← whole] at across
  obtain ⟨before, mention, expected, later, first, second, tokensCut, ofFront, inside, notFirst,
    notSecond⟩ := readAcross_iff.1 across
  rw [whole] at tokensCut
  have stands := stands_of_tokensFrom tokensCut
  have ofTokens := flatMap_tokensFrom [] code
  rw [← tokens, tokensCut, List.flatMap_append, List.flatMap_cons, Token.characters, inside,
    ← whole, ofFront, List.append_assoc, List.append_assoc, List.append_cancel_left_eq,
    List.append_cancel_left_eq] at ofTokens
  have behind := ofTokens.symm
  obtain ⟨symbol, first, rfl⟩ := List.exists_cons_of_ne_nil notFirst
  cases mention with
  | backtick name =>
      obtain ⟨rfl, within⟩ := List.cons.inj inside
      exact not_across_of_quoted aligned cut (by decide) stands ofFront within notSecond behind
  | doubleQuote name =>
      obtain ⟨rfl, within⟩ := List.cons.inj inside
      exact not_across_of_quoted aligned cut (by decide) stands ofFront within notSecond behind
  | bare name =>
      obtain ⟨quote, second, rfl⟩ := List.exists_cons_of_ne_nil notSecond
      have bare : ∀ symbol ∈ tableMark ++ name, isBareSymbol symbol = true := by
        have ofTable : ∀ symbol ∈ tableMark, isBareSymbol symbol = true :=
          List.all_eq_true.1 (by decide)
        exact List.forall_mem_append.2 ⟨ofTable, stands.2.1⟩
      have isBare := bare quote (by
        rw [show tableMark ++ name = _ from inside]
        exact List.mem_append_right _ (List.mem_cons_self ..))
      rcases opens with ⟨body, rfl⟩ | ⟨body, rfl⟩
      · obtain ⟨rfl, -⟩ := List.cons.inj behind
        exact absurd isBare (by decide)
      · obtain ⟨rfl, -⟩ := List.cons.inj behind
        exact absurd isBare (by decide)
  | emptyLiteral quote =>
      obtain ⟨starts, isQuote⟩ := stands
      rw [List.append_nil] at starts
      have whole : tableMark ++ [quote, quote] = symbol :: first ++ second := inside
      have member : ∀ symbol ∈ second, symbol ∈ tableMark ++ [quote, quote] := fun symbol found =>
        whole ▸ List.mem_append_right _ found
      obtain ⟨next, second, rfl⟩ := List.exists_cons_of_ne_nil notSecond
      have ofNext := member next (List.mem_cons_self ..)
      rcases opens with ⟨body, rfl⟩ | ⟨body, rfl⟩
      · obtain ⟨rfl, -⟩ := List.cons.inj behind
        rcases isQuote with rfl | rfl <;> exact absurd ofNext (by decide)
      · obtain ⟨rfl, -⟩ := List.cons.inj behind
        rcases isQuote with rfl | rfl
        · exact not_across_of_emptyLiteral aligned cut starts ofFront whole notSecond behind
        · exact absurd ofNext (by decide)

end Aligned

/-! ## Agreement -/

/-- Every table between backticks outside other quotes is a reference, with just that span. -/
def ReportsTables (catalog : Catalog) (code : List Char) : Prop :=
  ∀ span identifier, (span, Segment.closed '`' (tableMark ++ identifier)) ∈
      layOut Segment.characters 0 (segments code) →
    ⟨span, .backtick identifier⟩ ∈ scan catalog code

/-- No reference overlaps a literal. -/
def SparesLiterals (catalog : Catalog) (code : List Char) : Prop :=
  ∀ reference ∈ scan catalog code, ∀ literal ∈ literalSpans code, ¬ Overlap reference.span literal

theorem reportsTables_of_isAligned (aligned : isAligned code = true) :
    ReportsTables catalog code := by
  intro span identifier member
  obtain ⟨front, back, cut, rfl⟩ := mem_layOut_iff.1 member
  rw [mem_scan_iff_not_readAcross member, Nat.zero_add]
  exact not_readAcross_of_isAligned aligned cut (.inl ⟨_, rfl⟩)

theorem sparesLiterals_of_isAligned (aligned : isAligned code = true) :
    SparesLiterals catalog code := by
  intro reference inScan literal found overlap
  obtain ⟨begins, ends⟩ := (overlap_iff inScan found).1 overlap
  obtain ⟨body, member⟩ := mem_literalSpans_iff.1 found
  obtain ⟨front, back, cut, rfl⟩ := mem_layOut_iff.1 member
  rw [Nat.zero_add] at begins ends
  exact not_readAcross_of_isAligned aligned cut (.inr ⟨body, rfl⟩)
    (readAcross_of_reference inScan begins ends)

/-- **A table is overlooked exactly when a mention is read across its first backtick, a reference
overlaps a literal exactly when it is read across its first quote, and in aligned code neither
happens.** -/
theorem scan_agrees (catalog : Catalog) (code : List Char) :
    (∀ span identifier, (span, Segment.closed '`' (tableMark ++ identifier)) ∈
        layOut Segment.characters 0 (segments code) →
      (⟨span, .backtick identifier⟩ ∈ scan catalog code ↔ ¬ ReadAcross code span.start)) ∧
    (∀ reference ∈ scan catalog code, ∀ literal ∈ literalSpans code,
      (Overlap reference.span literal ↔
        reference.span.start < literal.start ∧ literal.start < reference.span.stop)) ∧
    (isAligned code = true → ReportsTables catalog code ∧ SparesLiterals catalog code) :=
  ⟨fun _ _ member => mem_scan_iff_not_readAcross member,
    fun _ inScan _ found => overlap_iff inScan found,
    fun aligned => ⟨reportsTables_of_isAligned aligned, sparesLiterals_of_isAligned aligned⟩⟩

/-- Code with a table, and with a table and an apostrophe in a literal. -/
def alignedCode : List Char := "SELECT name FROM `tabItem` WHERE note = 'see `tab`, it''s'".toList

/-- Code with an open backtick in a literal. -/
def tickedLiteral : List Char := "SELECT '`tab' FROM `tabItem`".toList

/-- Code with an open backtick in a quoted name. -/
def tickedName : List Char := "SELECT \"x `tab\" , 'lit', `y`".toList

/-- The aligned code has its table for a reference, and nothing else. -/
theorem scan_agrees_alignedCode :
    isAligned alignedCode = true ∧ ReportsTables .empty alignedCode ∧
      SparesLiterals .empty alignedCode ∧
      scan .empty alignedCode = [⟨⟨17, 26⟩, .backtick "Item".toList⟩] := by
  have aligned : isAligned alignedCode = true := by decide +kernel
  obtain ⟨reports, spares⟩ := (scan_agrees .empty alignedCode).2.2 aligned
  exact ⟨aligned, reports, spares, by decide +kernel⟩

/-- A backtick in a literal hides a table, and one in a quoted name makes a reference of a
literal. -/
theorem scan_of_open_backtick :
    ¬ ReportsTables .empty tickedLiteral ∧ ¬ SparesLiterals .empty tickedName := by
  constructor
  · intro reports
    have member : ((⟨19, 28⟩ : Span), Segment.closed '`' (tableMark ++ "Item".toList)) ∈
        layOut Segment.characters 0 (segments tickedLiteral) := by
      decide +kernel
    have missing : (⟨⟨19, 28⟩, .backtick "Item".toList⟩ : Reference) ∉
        scan .empty tickedLiteral := by
      decide +kernel
    exact missing (reports _ _ member)
  · intro spares
    have inScan : (⟨⟨10, 26⟩, .backtick "\" , 'lit', ".toList⟩ : Reference) ∈
        scan .empty tickedName := by
      decide +kernel
    have found : (⟨18, 23⟩ : Span) ∈ literalSpans tickedName := by decide +kernel
    exact spares _ inScan _ found ⟨by decide, by decide⟩

end Inquiry.Code
