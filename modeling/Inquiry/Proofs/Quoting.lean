import Inquiry.Code.Segment

/-!
# Quoting, character by character

Segments are read with the whole rest of the code in view: a quoted segment
looks ahead for its closing mark, and a literal for its end.  Whether a place
lies in a literal can be told without looking ahead.  `Quoting` is what a
reader needs to remember who goes through the code once, from left to right:
nothing, the mark that opened a quoted segment, that a literal is open, or
that a backslash was just read in it.

Such a reader says of every character but a single quote whether a literal
holds it, and says the same as the spans of the literals
(`holds_literalSpans`).  Single quotes are left out for a reason: the two
quotes of an empty table name are no literal, but nothing stands between them.
So the reader need not know of empty table names at all.
-/

set_option autoImplicit false

namespace Inquiry.Code

open Inquiry.Text

/-! ## Closed bodies -/

theorem closedBody?_eq_none_iff {mark : Char} {text : List Char} :
    closedBody? mark text = none ↔ mark ∉ text := by
  induction text with
  | nil => simp [closedBody?]
  | cons symbol rest ih =>
      by_cases same : symbol = mark
      · simp [closedBody?, List.dropWhile, same]
      · have fails : (symbol != mark) = true := bne_iff_ne.2 same
        simp only [closedBody?, List.dropWhile, List.takeWhile, fails, List.mem_cons,
          Ne.symm same, false_or] at ih ⊢
        rw [← ih]
        split <;> simp

theorem notMem_of_closedBody? {mark : Char} {text body after : List Char}
    (found : closedBody? mark text = some (body, after)) : mark ∉ body := by
  rw [closedBody?] at found
  split at found
  · cases found
  · simp only [Option.some.injEq, Prod.mk.injEq] at found
    rw [← found.1]
    intro member
    have passes := List.all_eq_true.1 List.all_takeWhile mark member
    simp at passes

theorem closedBody?_append_cons {mark : Char} {body : List Char} (absent : mark ∉ body)
    (after : List Char) : closedBody? mark (body ++ mark :: after) = some (body, after) := by
  induction body with
  | nil => simp [closedBody?]
  | cons symbol rest ih =>
      rw [List.mem_cons, not_or] at absent
      have fails : (symbol != mark) = true := bne_iff_ne.2 (Ne.symm absent.1)
      have ih := ih absent.2
      simp only [closedBody?, List.cons_append, List.dropWhile, List.takeWhile, fails] at ih ⊢
      split at ih
      · cases ih
      · simp only [Option.some.injEq, Prod.mk.injEq] at ih
        simp [ih]

/-! ## The reader -/

/-- What is remembered of the quotes in the code before. -/
inductive Quoting where
  /-- No quote is open. -/
  | outside
  /-- A backtick or a double quote is open. -/
  | quoted (mark : Char)
  /-- A literal is open. -/
  | literal
  /-- A literal is open, and a backslash in it guards the next character. -/
  | escaped
deriving DecidableEq

namespace Quoting

/-- What is remembered after one more character. -/
def step (quoting : Quoting) (symbol : Char) : Quoting :=
  match quoting with
  | .outside =>
      if symbol = '`' ∨ symbol = '"' then .quoted symbol
      else if symbol = '\'' then .literal
      else .outside
  | .quoted mark => if symbol = mark then .outside else .quoted mark
  | .literal =>
      if symbol = '\\' then .escaped else if symbol = '\'' then .outside else .literal
  | .escaped => .literal

/-- What is remembered after a text. -/
def after (quoting : Quoting) (text : List Char) : Quoting := text.foldl step quoting

/-- Whether a literal is open. -/
def hides : Quoting → Bool
  | .literal | .escaped => true
  | .outside | .quoted _ => false

@[simp] theorem after_nil (quoting : Quoting) : quoting.after [] = quoting := rfl

@[simp] theorem after_cons (quoting : Quoting) (symbol : Char) (rest : List Char) :
    quoting.after (symbol :: rest) = (quoting.step symbol).after rest := rfl

@[simp] theorem after_append (quoting : Quoting) (first second : List Char) :
    quoting.after (first ++ second) = (quoting.after first).after second :=
  List.foldl_append

/-- A quoted segment stays open until its mark is read. -/
theorem after_of_notMem {mark : Char} {text : List Char} (absent : mark ∉ text) :
    (Quoting.quoted mark).after text = .quoted mark := by
  induction text with
  | nil => rfl
  | cons symbol rest ih =>
      rw [List.mem_cons, not_or] at absent
      rw [after_cons, step, if_neg (Ne.symm absent.1)]
      exact ih absent.2

end Quoting

/-! ## Quoted segments -/

/-- A text that is cut at two places: either the part in front of the second place is longer, or
it begins with the part in front of the first one. -/
theorem cut_of_append {Element : Type} {first rest before later : List Element} {symbol : Element}
    (same : first ++ rest = before ++ symbol :: later) :
    (∃ between, first = before ++ symbol :: between) ∨ ∃ between, before = first ++ between := by
  rcases List.append_eq_append_iff.1 same with ⟨between, within, -⟩ | ⟨between, within, same⟩
  · exact .inr ⟨between, within⟩
  · cases between with
    | nil => exact .inr ⟨[], by simp [within]⟩
    | cons next between =>
        obtain ⟨rfl, -⟩ := List.cons.inj same
        exact .inl ⟨between, within⟩

theorem step_mark {mark : Char} (isMark : mark = '`' ∨ mark = '"') :
    Quoting.outside.step mark = .quoted mark :=
  if_pos isMark

theorem hides_of_quoted {mark symbol : Char} {body before later : List Char}
    (isMark : mark = '`' ∨ mark = '"') (absent : mark ∉ body)
    (inside : mark :: body = before ++ symbol :: later) :
    (Quoting.outside.after before).hides = false := by
  cases before with
  | nil => rfl
  | cons first before =>
      obtain ⟨rfl, rfl⟩ := List.cons.inj inside
      rw [Quoting.after_cons, step_mark isMark, Quoting.after_of_notMem fun member =>
        absent (List.mem_append_left _ member)]
      rfl

theorem after_closed {mark : Char} {body : List Char} (isMark : mark = '`' ∨ mark = '"')
    (absent : mark ∉ body) : Quoting.outside.after (mark :: (body ++ [mark])) = .outside := by
  rw [Quoting.after_cons, Quoting.after_append, step_mark isMark, Quoting.after_of_notMem absent]
  exact if_pos rfl

theorem hides_of_closed {mark symbol : Char} {body before later : List Char}
    (isMark : mark = '`' ∨ mark = '"') (absent : mark ∉ body)
    (inside : mark :: body ++ [mark] = before ++ symbol :: later) :
    (Quoting.outside.after before).hides = false := by
  rcases cut_of_append inside with ⟨between, within⟩ | ⟨between, rfl⟩
  · exact hides_of_quoted isMark absent within
  · rw [List.append_assoc, List.append_cancel_left_eq] at inside
    cases between with
    | nil =>
        rw [List.append_nil, Quoting.after_cons, step_mark isMark, Quoting.after_of_notMem absent]
        rfl
    | cons next between => simp at inside

/-! ## Literals -/

/-- A character in the rest of a literal has an open literal before it, unless it is a quote. -/
theorem hides_of_literalBody {rest before later : List Char} {symbol : Char}
    (inside : (literalBody rest).1 = before ++ symbol :: later) (notQuote : symbol ≠ '\'') :
    (Quoting.literal.after before).hides = true := by
  fun_induction literalBody rest generalizing before with
  | case1 => simp at inside
  | case2 guarded rest body rest' same ih =>
      rcases before with _ | ⟨first, _ | ⟨second, before⟩⟩
      · rfl
      · obtain ⟨rfl, -⟩ := List.cons.inj inside
        rfl
      · simp only [List.cons_append, List.cons.injEq] at inside
        obtain ⟨rfl, rfl, inside⟩ := inside
        show (Quoting.literal.after before).hides = true
        exact ih (by rw [same]; exact inside)
  | case3 rest body rest' same ih =>
      rcases before with _ | ⟨first, _ | ⟨second, before⟩⟩
      · obtain ⟨rfl, -⟩ := List.cons.inj inside
        exact absurd rfl notQuote
      · simp only [List.cons_append, List.nil_append, List.cons.injEq] at inside
        exact absurd inside.2.1.symm notQuote
      · simp only [List.cons_append, List.cons.injEq] at inside
        obtain ⟨rfl, rfl, inside⟩ := inside
        show (Quoting.literal.after before).hides = true
        exact ih (by rw [same]; exact inside)
  | case4 rest notDoubled =>
      cases before with
      | nil =>
          obtain ⟨rfl, -⟩ := List.cons.inj inside
          exact absurd rfl notQuote
      | cons first before => simp at inside
  | case5 first rest notGuard notDoubled notQuoted body rest' same ih =>
      cases before with
      | nil => rfl
      | cons second before =>
          simp only [List.cons_append, List.cons.injEq] at inside
          obtain ⟨rfl, inside⟩ := inside
          have notBackslash : first ≠ '\\' := by
            rintro rfl
            cases rest with
            | nil =>
                cases same
                simp at inside
            | cons next rest => exact notGuard next rest rfl rfl
          rw [Quoting.after_cons, Quoting.step, if_neg notBackslash, if_neg notQuoted]
          exact ih (by rw [same]; exact inside)

/-- A literal that does not reach to the end of the code is closed. -/
theorem after_literalBody {rest : List Char} (ends : (literalBody rest).2 ≠ []) :
    Quoting.literal.after (literalBody rest).1 = .outside := by
  fun_induction literalBody rest with
  | case1 => exact absurd rfl ends
  | case2 guarded rest body rest' same ih =>
      rw [same] at ih
      exact ih ends
  | case3 rest body rest' same ih =>
      rw [same] at ih
      exact ih ends
  | case4 rest notDoubled => rfl
  | case5 first rest notGuard notDoubled notQuoted body rest' same ih =>
      have notBackslash : first ≠ '\\' := by
        rintro rfl
        cases rest with
        | nil =>
            cases same
            exact ends rfl
        | cons next rest => exact notGuard next rest rfl rfl
      rw [same] at ih
      rw [Quoting.after_cons, Quoting.step, if_neg notBackslash, if_neg notQuoted]
      exact ih ends

/-! ## The spans of literals -/

/-- The spans of the literals among segments that are laid out from an offset. -/
def literalSpansFrom (offset : Nat) (segments : List Segment) : List Span :=
  ((layOut Segment.characters offset segments).filter (·.2.isLiteral)).map Prod.fst

theorem literalSpansFrom_cons (offset : Nat) (segment : Segment) (rest : List Segment) :
    literalSpansFrom offset (segment :: rest) =
      if segment.isLiteral then
        ⟨offset, offset + byteSize segment.characters⟩ ::
          literalSpansFrom (offset + byteSize segment.characters) rest
      else literalSpansFrom (offset + byteSize segment.characters) rest := by
  cases isLiteral : segment.isLiteral <;> simp [literalSpansFrom, layOut, isLiteral]

/-- Whether a literal among segments holds the place after a text. -/
def holdsAfter (offset : Nat) (segments : List Segment) (before : List Char) : Bool :=
  (literalSpansFrom offset segments).any (·.holds (offset + byteSize before))

theorem le_start_of_mem_layOut {Piece : Type} {charactersOf : Piece → List Char} {offset : Nat}
    {pieces : List Piece} {span : Span} {piece : Piece}
    (member : (span, piece) ∈ layOut charactersOf offset pieces) : offset ≤ span.start := by
  induction pieces generalizing offset with
  | nil => cases member
  | cons first rest ih =>
      rw [layOut] at member
      rcases List.mem_cons.1 member with same | member
      · cases same
        exact Nat.le_refl offset
      · exact Nat.le_trans (Nat.le_add_right ..) (ih member)

/-- No literal behind a place holds a byte in front of it. -/
theorem any_holds_eq_false {offset place : Nat} (segments : List Segment) (front : place < offset) :
    (literalSpansFrom offset segments).any (·.holds place) = false := by
  rw [List.any_eq_false]
  intro span member
  obtain ⟨⟨_, segment⟩, laidOut, rfl⟩ := List.mem_map.1 member
  have bound := le_start_of_mem_layOut (List.mem_filter.1 laidOut).1
  simp only [Span.holds, Bool.and_eq_true, decide_eq_true_eq, not_and]
  omega

theorem holdsAfter_cons_of_lt {offset : Nat} {segment : Segment} {rest : List Segment}
    {before : List Char} (inside : byteSize before < byteSize segment.characters) :
    holdsAfter offset (segment :: rest) before = segment.isLiteral := by
  have noLater := any_holds_eq_false rest
    (show offset + byteSize before < offset + byteSize segment.characters by omega)
  rw [holdsAfter, literalSpansFrom_cons]
  cases segment.isLiteral with
  | false => rw [if_neg Bool.false_ne_true, noLater]
  | true => simp [Span.holds, inside]

theorem holdsAfter_cons_append (offset : Nat) (segment : Segment) (rest : List Segment)
    (before : List Char) :
    holdsAfter offset (segment :: rest) (segment.characters ++ before) =
      holdsAfter (offset + byteSize segment.characters) rest before := by
  have past : Span.holds ⟨offset, offset + byteSize segment.characters⟩
      (offset + byteSize segment.characters + byteSize before) = false := by
    simp [Span.holds]
  rw [holdsAfter, holdsAfter, literalSpansFrom_cons, byteSize_append, ← Nat.add_assoc]
  cases segment.isLiteral with
  | false => rw [if_neg Bool.false_ne_true]
  | true => rw [if_pos rfl, List.any_cons, past, Bool.false_or]

/-- The reader and the spans agree on a place when they agree on the first segment, where it holds
the place, and on the segments after a first one that leaves nothing open. -/
theorem holdsAfter_cons {offset : Nat} {segment : Segment} {segments : List Segment}
    (rest : List Char) {before later : List Char} {symbol : Char}
    (cut : segment.characters ++ rest = before ++ symbol :: later)
    (within : ∀ between, segment.characters = before ++ symbol :: between →
      segment.isLiteral = (Quoting.outside.after before).hides)
    (past : ∀ between, before = segment.characters ++ between → rest = between ++ symbol :: later →
      Quoting.outside.after segment.characters = .outside ∧
        holdsAfter (offset + byteSize segment.characters) segments between =
          (Quoting.outside.after between).hides) :
    holdsAfter offset (segment :: segments) before = (Quoting.outside.after before).hides := by
  rcases cut_of_append cut with ⟨between, inside⟩ | ⟨between, rfl⟩
  · rw [← within between inside]
    apply holdsAfter_cons_of_lt
    have positive := symbol.utf8Size_pos
    rw [inside, byteSize_append, byteSize]
    omega
  · rw [List.append_assoc] at cut
    obtain ⟨closed, agree⟩ := past between rfl (List.append_cancel_left cut)
    rw [holdsAfter_cons_append, agree, Quoting.after_append, closed]

/-- **A reader without foresight finds the literals**: at a character other than a single quote,
a literal is open for it exactly where one of the spans holds the place. -/
theorem holdsAfter_segmentsFrom {behind text before later : List Char} {symbol : Char}
    (offset : Nat) (cut : text = before ++ symbol :: later) (notQuote : symbol ≠ '\'') :
    holdsAfter offset (segmentsFrom behind text) before = (Quoting.outside.after before).hides := by
  fun_induction segmentsFrom behind text generalizing before offset with
  | case1 => simp at cut
  | case2 behind first rest isMark isOpen =>
      refine holdsAfter_cons [] (by simpa [Segment.characters] using cut) ?_ ?_
      · intro between inside
        exact (hides_of_quoted isMark (closedBody?_eq_none_iff.1 isOpen) inside).symm
      · intro between whole none
        simp at none
  | case3 behind first rest isMark body rest' found ih =>
      have absent := notMem_of_closedBody? found
      refine holdsAfter_cons rest'
        (by rw [← cut, ← closedBody?_append found]; simp [Segment.characters]) ?_ ?_
      · intro between inside
        exact (hides_of_closed isMark absent inside).symm
      · intro between whole cut
        exact ⟨after_closed isMark absent, ih _ cut⟩
  | case4 behind rest isEmpty notMark ih =>
      obtain ⟨rest', rfl⟩ : ∃ rest', rest = '\'' :: rest' := by
        cases rest with
        | nil => simp at isEmpty
        | cons next rest' => exact ⟨rest', by simpa using isEmpty.1⟩
      refine holdsAfter_cons rest' (by rw [← cut]; rfl) ?_ ?_
      · intro between inside
        rcases before with _ | ⟨first, _ | ⟨second, before⟩⟩
        · exact absurd (List.cons.inj inside).1.symm notQuote
        · exact absurd (List.cons.inj (List.cons.inj inside).2).1.symm notQuote
        · simp [Segment.characters] at inside
      · intro between whole cut
        exact ⟨rfl, ih _ cut⟩
  | case5 behind rest notEmpty notMark ih =>
      refine holdsAfter_cons (literalBody rest).2
        (by rw [← cut]; simp [Segment.characters, literalBody_append]) ?_ ?_
      · intro between inside
        cases before with
        | nil => exact absurd (List.cons.inj inside).1.symm notQuote
        | cons first before =>
            obtain ⟨rfl, within⟩ := List.cons.inj inside
            exact (hides_of_literalBody within notQuote).symm
      · intro between whole cut
        refine ⟨after_literalBody ?_, ih _ cut⟩
        rw [cut]
        simp
  | case6 behind first rest notMark notQuoted ih =>
      refine holdsAfter_cons rest (by rw [← cut]; rfl) ?_ ?_
      · intro between inside
        cases before with
        | nil => rfl
        | cons other before => simp [Segment.characters] at inside
      · intro between whole cut
        refine ⟨?_, ih _ cut⟩
        simp [Segment.characters, Quoting.step, not_or.1 notMark, notQuoted]

/-- A literal is open before a character other than a single quote exactly where a span of a
literal of the code holds the place of the character. -/
theorem holds_literalSpans (before later : List Char) {symbol : Char} (notQuote : symbol ≠ '\'') :
    (literalSpans (before ++ symbol :: later)).any (·.holds (byteSize before)) =
      (Quoting.outside.after before).hides := by
  rw [← holdsAfter_segmentsFrom 0 rfl notQuote, holdsAfter, Nat.zero_add]
  rfl

end Inquiry.Code
