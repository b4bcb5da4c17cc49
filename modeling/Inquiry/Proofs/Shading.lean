import Inquiry.Proofs.WriteWords

/-!
# Characters in literals

Words that write are searched for in code whose literals are blanked out
segment by segment.  Here the segments are taken apart again into characters,
each with a shade that says whether a literal holds it.  Blanking out is then a
matter of single characters, and the shade of a character other than a single
quote is what a reader without foresight says of it (`shade_eq_hides`).

So a text without quotes that stands where no literal is open is left as it is,
and no word begins or ends beside it that did not before
(`exists_cut_withoutLiterals`).  A word that writes is found there
(`isSome_writeKeyword?`).
-/

set_option autoImplicit false

namespace Inquiry.Code

open Inquiry.Text

/-- The characters of segments, each with whether a literal holds it. -/
def shaded (segments : List Segment) : List (Char × Bool) :=
  segments.flatMap fun segment => segment.characters.map fun symbol => (symbol, segment.isLiteral)

/-- Characters with those of literals replaced by as many blanks as they have bytes. -/
def blanked (shades : List (Char × Bool)) : List Char :=
  shades.flatMap fun shade => if shade.2 then List.replicate shade.1.utf8Size ' ' else [shade.1]

@[simp] theorem map_fst_shaded (segments : List Segment) :
    (shaded segments).map Prod.fst = segments.flatMap Segment.characters := by
  simp [shaded, List.map_flatMap, Function.comp_def]

@[simp] theorem blanked_append (first second : List (Char × Bool)) :
    blanked (first ++ second) = blanked first ++ blanked second :=
  List.flatMap_append

theorem blanked_of_shown {shades : List (Char × Bool)} (shown : ∀ shade ∈ shades, shade.2 = false) :
    blanked shades = shades.map Prod.fst := by
  induction shades with
  | nil => rfl
  | cons shade rest ih =>
      have ofRest := ih fun other member => shown other (List.mem_cons_of_mem _ member)
      have here := shown shade (List.mem_cons_self ..)
      rw [blanked] at ofRest ⊢
      simp [ofRest, here]

theorem blanked_of_hidden (text : List Char) :
    blanked (text.map fun symbol => (symbol, true)) = List.replicate (byteSize text) ' ' := by
  induction text with
  | nil => rfl
  | cons symbol rest ih =>
      rw [blanked] at ih ⊢
      rw [List.map_cons, List.flatMap_cons, ih, byteSize, if_pos rfl,
        List.replicate_append_replicate]

/-- Literals are blanked out character by character. -/
theorem withoutLiterals_eq_blanked (code : List Char) :
    withoutLiterals code = blanked (shaded (segments code)) := by
  rw [withoutLiterals]
  induction segments code with
  | nil => rfl
  | cons segment rest ih =>
      rw [shaded] at ih ⊢
      rw [List.flatMap_cons, List.flatMap_cons, blanked_append, ih]
      cases segment.isLiteral with
      | true => rw [blanked_of_hidden, if_pos rfl]
      | false =>
          have kept : blanked (segment.characters.map fun symbol => (symbol, false)) =
              segment.characters := by
            rw [blanked_of_shown (by simp), List.map_map]
            simp [Function.comp_def]
          rw [kept, if_neg Bool.false_ne_true]

/-! ## Shades -/

theorem holdsAfter_of_shaded {offset : Nat} {segments : List Segment}
    {before later : List (Char × Bool)} {symbol : Char} {hidden : Bool}
    (cut : shaded segments = before ++ (symbol, hidden) :: later) :
    holdsAfter offset segments (before.map Prod.fst) = hidden := by
  induction segments generalizing offset before with
  | nil => simp [shaded] at cut
  | cons segment rest ih =>
      have ofFirst : (segment.characters.map fun symbol =>
          (symbol, segment.isLiteral)).map Prod.fst = segment.characters := by
        simp [Function.comp_def]
      rw [shaded, List.flatMap_cons] at cut
      rcases cut_of_append cut with ⟨between, inside⟩ | ⟨between, rfl⟩
      · have ofHidden : (symbol, hidden) ∈
            segment.characters.map fun symbol => (symbol, segment.isLiteral) := by
          rw [inside]
          exact List.mem_append_right _ (List.mem_cons_self ..)
        obtain ⟨other, -, same⟩ := List.mem_map.1 ofHidden
        obtain ⟨-, rfl⟩ := Prod.mk.inj same
        apply holdsAfter_cons_of_lt
        have positive := symbol.utf8Size_pos
        rw [inside, List.map_append, List.map_cons] at ofFirst
        rw [← ofFirst, byteSize_append, byteSize]
        exact Nat.lt_add_of_pos_right (Nat.add_pos_left positive _)
      · rw [List.append_assoc, List.append_cancel_left_eq] at cut
        rw [List.map_append, ofFirst, holdsAfter_cons_append]
        exact ih cut

/-- The shade of a character other than a single quote is what the reader says of it. -/
theorem shade_eq_hides {code : List Char} {before later : List (Char × Bool)} {symbol : Char}
    {hidden : Bool} (cut : shaded (segments code) = before ++ (symbol, hidden) :: later)
    (notQuote : symbol ≠ '\'') :
    (Quoting.outside.after (before.map Prod.fst)).hides = hidden := by
  have whole := congrArg (List.map Prod.fst) cut
  rw [map_fst_shaded, flatMap_segments, List.map_append, List.map_cons] at whole
  rw [← holdsAfter_of_shaded cut, segments]
  exact (holdsAfter_segmentsFrom 0 whole notQuote).symm

/-! ## Words outside literals -/

theorem startsWordAfter_getLast?_blanked {shades : List (Char × Bool)}
    (starts : startsWordAfter (shades.map Prod.fst).getLast? = true) :
    startsWordAfter (blanked shades).getLast? = true := by
  rcases List.eq_nil_or_concat shades with rfl | ⟨front, ⟨symbol, hidden⟩, rfl⟩
  · rfl
  · cases hidden with
    | true =>
        have positive := symbol.utf8Size_pos
        simp [blanked, List.getLast?_append, List.getLast?_replicate, Nat.ne_of_gt positive]
        rfl
    | false => simpa [blanked, List.getLast?_append] using starts

theorem startsWordAfter_head?_blanked {shades : List (Char × Bool)}
    (ends : startsWordAfter (shades.map Prod.fst).head? = true) :
    startsWordAfter (blanked shades).head? = true := by
  rcases shades with _ | ⟨⟨symbol, hidden⟩, rest⟩
  · rfl
  · cases hidden with
    | true =>
        have positive := symbol.utf8Size_pos
        simp [blanked, List.head?_append, List.head?_replicate, Nat.ne_of_gt positive]
        rfl
    | false => simpa [blanked] using ends

/-- **A text without quotes that stands where no literal is open is left as it is**, and the code
around it begins and ends no word that it did not before. -/
theorem exists_cut_withoutLiterals {code before written after : List Char}
    (cut : code = before ++ written ++ after)
    (shown : (Quoting.outside.after before).hides = false) (unquoted : IsUnquoted written) :
    ∃ front back, withoutLiterals code = front ++ written ++ back ∧
      (startsWordAfter before.getLast? = true → startsWordAfter front.getLast? = true) ∧
      (startsWordAfter after.head? = true → startsWordAfter back.head? = true) := by
  have whole := map_fst_shaded (segments code)
  rw [flatMap_segments] at whole
  obtain ⟨first, back, shades, ofFirst, rfl⟩ := List.map_eq_append_iff.1 (whole.trans cut)
  obtain ⟨front, between, rfl, rfl, rfl⟩ := List.map_eq_append_iff.1 ofFirst
  have allShown : ∀ shade ∈ between, shade.2 = false := by
    rintro ⟨symbol, hidden⟩ member
    obtain ⟨earlier, later, rfl⟩ := List.append_of_mem member
    have stays : (Quoting.outside.after (front.map Prod.fst)).after (earlier.map Prod.fst) =
        Quoting.outside.after (front.map Prod.fst) := by
      apply Quoting.after_of_isUnquoted shown (Quoting.isMarked_after _)
      intro other inEarlier
      apply unquoted other
      rw [List.map_append]
      exact List.mem_append_left _ inEarlier
    rw [List.append_assoc, List.append_assoc, List.cons_append, ← List.append_assoc] at shades
    have here := shade_eq_hides shades (unquoted symbol (List.mem_map_of_mem member)).2.2
    rw [List.map_append, Quoting.after_append, stays, shown] at here
    exact here.symm
  refine ⟨blanked front, blanked back, ?_, startsWordAfter_getLast?_blanked,
    startsWordAfter_head?_blanked⟩
  rw [withoutLiterals_eq_blanked, shades, blanked_append, blanked_append,
    blanked_of_shown allShown]

/-! ## The search for words that write -/

/-- A text stands as a word between two others: they end and begin with no word character. -/
def StandsAsWord (front back : List Char) : Prop :=
  startsWordAfter front.getLast? = true ∧ startsWordAfter back.head? = true

instance (front back : List Char) : Decidable (StandsAsWord front back) :=
  inferInstanceAs (Decidable (_ ∧ _))

/-- A text that stands as a word does so with less of the code around it. -/
theorem StandsAsWord.of_append {more front back rest : List Char}
    (stands : StandsAsWord (more ++ front) (back ++ rest)) : StandsAsWord front back := by
  obtain ⟨starts, ends⟩ := stands
  constructor
  · rw [List.getLast?_append] at starts
    cases last : front.getLast? with
    | none => rfl
    | some symbol => rwa [last] at starts
  · cases back with
    | nil => rfl
    | cons symbol back => exact ends

/-- What is found is a word that writes and stands as a word in the code without its literals. -/
theorem writeKeyword?_eq_some {code : List Char} {keyword : String}
    (found : writeKeyword? code = some keyword) :
    ∃ front back, IsWriteWord keyword.toList ∧ StandsAsWord front back ∧
      withoutLiterals code = front ++ keyword.toList ++ back := by
  obtain ⟨written, isHere, rfl⟩ := Option.map_eq_some_iff.1 found
  obtain ⟨front, back, writes, cut, starts, ends⟩ := writeWordFrom?_eq_some isHere
  rw [Option.or_none] at starts
  exact ⟨front, back, by simpa using writes, ⟨starts, ends⟩, by simpa using cut⟩

/-- **A word that writes is found where it stands as a word and no literal is open.** -/
theorem isSome_writeKeyword? {code before written after : List Char}
    (cut : code = before ++ written ++ after) (writes : IsWriteWord written)
    (stands : StandsAsWord before after)
    (shown : (Quoting.outside.after before).hides = false) :
    (writeKeyword? code).isSome = true := by
  obtain ⟨front, back, cut, starts, ends⟩ := exists_cut_withoutLiterals cut shown writes.isUnquoted
  rw [writeKeyword?, Option.isSome_map, cut]
  refine isSome_writeWordFrom? writes ?_ (ends stands.2)
  rw [Option.or_none]
  exact starts stands.1

end Inquiry.Code
