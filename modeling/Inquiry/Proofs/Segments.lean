import Inquiry.Proofs.Mentions

/-!
# Where segments stand

Segments are read from left to right, each from where the one before it ends.
What a segment is depends on the code behind it, which closes its quotes, and
in one case on the code in front: two quotes right after the mark of tables are
an empty table name and no literal.  `Segment.StandsBetween` says what holds of
the code around a segment, and every segment that is read stands so
(`stands_of_segmentsFrom`).
-/

set_option autoImplicit false

namespace Inquiry.Code

open Inquiry.Text

/-! ## Laying out -/

theorem byteSize_pos {text : List Char} (notEmpty : text ≠ []) : 0 < byteSize text := by
  obtain ⟨symbol, rest, rfl⟩ := List.exists_cons_of_ne_nil notEmpty
  have positive := symbol.utf8Size_pos
  rw [byteSize]
  omega

section LayingOut

variable {Piece : Type} {charactersOf : Piece → List Char}

/-- A piece is laid out behind the pieces in front of it. -/
theorem mem_layOut_iff {offset : Nat} {pieces : List Piece} {span : Span} {piece : Piece} :
    (span, piece) ∈ layOut charactersOf offset pieces ↔
      ∃ front back, pieces = front ++ piece :: back ∧
        span = ⟨offset + byteSize (front.flatMap charactersOf),
          offset + byteSize (front.flatMap charactersOf) + byteSize (charactersOf piece)⟩ := by
  induction pieces generalizing offset with
  | nil => simp [layOut]
  | cons first rest ih =>
      rw [layOut, List.mem_cons, ih]
      constructor
      · rintro (same | ⟨front, back, rfl, rfl⟩)
        · obtain ⟨rfl, rfl⟩ := Prod.mk.inj same
          exact ⟨[], rest, rfl, by simp [byteSize]⟩
        · exact ⟨first :: front, back, rfl, by simp [Nat.add_assoc]⟩
      · rintro ⟨front, back, cut, rfl⟩
        cases front with
        | nil =>
            obtain ⟨rfl, -⟩ := List.cons.inj cut
            exact .inl (by simp [byteSize])
        | cons other front =>
            obtain ⟨rfl, ofRest⟩ := List.cons.inj cut
            exact .inr ⟨front, back, ofRest, by simp [Nat.add_assoc]⟩

/-- Only the piece itself holds the place where it begins. -/
theorem eq_of_holds_start {offset : Nat} {pieces : List Piece} {span other : Span}
    {piece piece' : Piece} (member : (span, piece) ∈ layOut charactersOf offset pieces)
    (otherMember : (other, piece') ∈ layOut charactersOf offset pieces)
    (notEmpty : charactersOf piece ≠ []) (holds : other.holds span.start = true) :
    other = span ∧ piece' = piece := by
  simp only [Span.holds, Bool.and_eq_true, decide_eq_true_eq] at holds
  induction pieces generalizing offset with
  | nil => cases member
  | cons first rest ih =>
      rw [layOut, List.mem_cons] at member otherMember
      rcases member with same | member
      · rcases otherMember with otherSame | otherMember
        · rw [← otherSame] at same
          obtain ⟨rfl, rfl⟩ := Prod.mk.inj same
          exact ⟨rfl, rfl⟩
        · obtain ⟨rfl, rfl⟩ := Prod.mk.inj same
          have bound := le_start_of_mem_layOut otherMember
          obtain ⟨symbol, tail, cons⟩ := List.exists_cons_of_ne_nil notEmpty
          have positive := symbol.utf8Size_pos
          rw [cons, byteSize] at bound
          dsimp only at holds bound
          omega
      · rcases otherMember with otherSame | otherMember
        · obtain ⟨rfl, rfl⟩ := Prod.mk.inj otherSame
          have bound := le_start_of_mem_layOut member
          dsimp only at holds
          omega
        · exact ih member otherMember

/-- Of two beginnings of a text the one with fewer bytes begins the other. -/
theorem isPrefix_of_byteSize_le {first second text : List Char} (ofFirst : first <+: text)
    (ofSecond : second <+: text) (less : byteSize first ≤ byteSize second) : first <+: second := by
  rcases List.prefix_or_prefix_of_prefix ofFirst ofSecond with within | ⟨more, rfl⟩
  · exact within
  · cases more with
    | nil => simp
    | cons symbol more =>
        have positive := symbol.utf8Size_pos
        rw [byteSize_append, byteSize] at less
        omega

end LayingOut

/-! ## Bodies of literals -/

/-- No quote follows a literal: it would be a part of it. -/
theorem head?_literalBody (text : List Char) : (literalBody text).2.head? ≠ some '\'' := by
  fun_induction literalBody text with
  | case1 => simp
  | case2 guarded rest body after same ih =>
      rw [same] at ih
      exact ih
  | case3 rest body after same ih =>
      rw [same] at ih
      exact ih
  | case4 rest notDoubled =>
      intro isQuote
      cases rest with
      | nil => cases isQuote
      | cons next rest =>
          cases isQuote
          exact notDoubled rest rfl
  | case5 first rest notGuard notDoubled notQuoted body after same ih =>
      rw [same] at ih
      exact ih

theorem literalBody_ne_nil {text : List Char} (notEmpty : text ≠ []) :
    (literalBody text).1 ≠ [] := by
  fun_cases literalBody text <;> simp_all

/-! ## Segments -/

theorem Segment.characters_ne_nil (segment : Segment) : segment.characters ≠ [] := by
  cases segment <;> simp [Segment.characters]

/-- What holds around a segment that is read: of the code in front, given from its end, of the
segment, and of the code after it. -/
def Segment.StandsBetween (before after : List Char) : Segment → Prop
  | .plain symbol => isMark symbol = false ∧ symbol ≠ '\''
  | .closed mark body => isMark mark = true ∧ mark ∉ body
  | .unclosed mark body => isMark mark = true ∧ mark ∉ body ∧ after = []
  | .emptyTable => endsInTableMark before = true
  | .literal body => literalBody (body ++ after) = (body, after)

/-- **Every segment stands where it is read.** -/
theorem stands_of_segmentsFrom {before text : List Char} {front back : List Segment}
    {segment : Segment} (cut : segmentsFrom before text = front ++ segment :: back) :
    segment.StandsBetween ((front.flatMap Segment.characters).reverse ++ before)
      (back.flatMap Segment.characters) := by
  fun_induction segmentsFrom before text generalizing front with
  | case1 => simp at cut
  | case2 before symbol rest marked isOpen =>
      cases front with
      | nil =>
          obtain ⟨rfl, rfl⟩ := List.cons.inj cut
          exact ⟨isMark_iff.2 marked, closedBody?_eq_none_iff.1 isOpen, rfl⟩
      | cons first front => simp at cut
  | case3 before symbol rest marked body after found ih =>
      cases front with
      | nil =>
          obtain ⟨rfl, -⟩ := List.cons.inj cut
          exact ⟨isMark_iff.2 marked, notMem_of_closedBody? found⟩
      | cons first front =>
          obtain ⟨rfl, ofRest⟩ := List.cons.inj cut
          simpa [Segment.characters] using ih ofRest
  | case4 before rest isEmpty notMark ih =>
      cases front with
      | nil =>
          obtain ⟨rfl, -⟩ := List.cons.inj cut
          exact isEmpty.2
      | cons first front =>
          obtain ⟨rfl, ofRest⟩ := List.cons.inj cut
          simpa [Segment.characters] using ih ofRest
  | case5 before rest notEmpty notMark ih =>
      cases front with
      | nil =>
          obtain ⟨rfl, rfl⟩ := List.cons.inj cut
          show literalBody _ = _
          rw [flatMap_segmentsFrom, literalBody_append]
      | cons first front =>
          obtain ⟨rfl, ofRest⟩ := List.cons.inj cut
          simpa [Segment.characters] using ih ofRest
  | case6 before symbol rest notMark notQuote ih =>
      cases front with
      | nil =>
          obtain ⟨rfl, -⟩ := List.cons.inj cut
          exact ⟨Bool.eq_false_iff.2 fun marked => notMark (isMark_iff.1 marked), notQuote⟩
      | cons first front =>
          obtain ⟨rfl, ofRest⟩ := List.cons.inj cut
          simpa [Segment.characters] using ih ofRest

end Inquiry.Code
