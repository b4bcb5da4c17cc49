import Inquiry.Proofs.Placement

/-!
# Names without quotes

Most code is undisturbed by correction for simple reasons.  If there is no
quote in the names of its references, nor in the names that are written, then
every mention and every table leaves the quotes open that were open before it
(`Quoting.after_characters`), so they are balanced (`balanced_of_isUnquoted`).
And if no mark is kept on its own, no mark can be closed by a table
(`shut_of_notMem`).
-/

set_option autoImplicit false

namespace Inquiry.Code

open Inquiry.Text

/-- No character of a text is a quote. -/
def IsUnquoted (text : List Char) : Prop :=
  ∀ symbol ∈ text, symbol ≠ '`' ∧ symbol ≠ '"' ∧ symbol ≠ '\''

theorem isUnquoted_append {first second : List Char} (ofFirst : IsUnquoted first)
    (ofSecond : IsUnquoted second) : IsUnquoted (first ++ second) := by
  intro symbol member
  rcases List.mem_append.1 member with member | member
  · exact ofFirst symbol member
  · exact ofSecond symbol member

theorem IsUnquoted.notMem {text : List Char} (unquoted : IsUnquoted text) {mark : Char}
    (marked : isMark mark = true) : mark ∉ text := by
  intro member
  obtain ⟨noTick, noDouble, -⟩ := unquoted mark member
  rcases isMark_iff.1 marked with isTick | isDouble
  · exact noTick isTick
  · exact noDouble isDouble

theorem isUnquoted_tableMark : IsUnquoted tableMark := by
  intro symbol member
  simp only [tableMark, List.mem_cons, List.not_mem_nil, or_false] at member
  rcases member with rfl | rfl | rfl <;> decide

theorem isUnquoted_of_bare {text : List Char} (bare : ∀ symbol ∈ text, isBareSymbol symbol = true) :
    IsUnquoted text := by
  intro symbol member
  have isBare := bare symbol member
  refine ⟨?_, ?_, ?_⟩ <;> rintro rfl <;> revert isBare <;> decide

/-! ## Reading past names -/

namespace Quoting

/-- Quoted segments are opened by the two marks only. -/
def IsMarked (quoting : Quoting) : Prop := ∀ mark, quoting = .quoted mark → isMark mark = true

theorem isMarked_step {quoting : Quoting} (marked : quoting.IsMarked) (symbol : Char) :
    (quoting.step symbol).IsMarked := by
  intro mark same
  cases quoting with
  | outside =>
      rw [step] at same
      split at same
      case isTrue isMark =>
        cases same
        exact isMark_iff.2 isMark
      case isFalse => split at same <;> cases same
  | quoted other =>
      rw [step] at same
      split at same
      · cases same
      · exact marked mark same
  | literal =>
      rw [step] at same
      split at same
      · cases same
      · split at same <;> cases same
  | escaped => cases same

theorem IsMarked.after {quoting : Quoting} (marked : quoting.IsMarked) (text : List Char) :
    (quoting.after text).IsMarked := by
  induction text generalizing quoting with
  | nil => exact marked
  | cons symbol rest ih => exact ih (isMarked_step marked symbol)

theorem isMarked_after (text : List Char) : (Quoting.outside.after text).IsMarked :=
  IsMarked.after (fun mark same => by cases same) text

variable {quoting : Quoting}

/-- Characters that are no quotes leave everything open that is, and nothing else. -/
theorem after_of_isUnquoted (shown : quoting.hides = false) (marked : quoting.IsMarked)
    {text : List Char} (unquoted : IsUnquoted text) : quoting.after text = quoting := by
  cases quoting with
  | outside =>
      induction text with
      | nil => rfl
      | cons symbol rest ih =>
          obtain ⟨noTick, noDouble, noSingle⟩ := unquoted symbol (List.mem_cons_self ..)
          rw [after_cons, step, if_neg (by simp [noTick, noDouble]), if_neg noSingle]
          exact ih fun later member => unquoted later (List.mem_cons_of_mem _ member)
  | quoted mark => exact after_of_notMem (unquoted.notMem (marked mark rfl))
  | literal => cases shown
  | escaped => cases shown

/-- A text without quotes between two marks leaves everything open that is, and nothing else. -/
theorem after_between_marks (shown : quoting.hides = false) (quotingMarked : quoting.IsMarked)
    {mark : Char} (marked : isMark mark = true) {text : List Char} (unquoted : IsUnquoted text) :
    quoting.after (mark :: (text ++ [mark])) = quoting := by
  have absent := unquoted.notMem marked
  cases quoting with
  | outside => exact after_closed (isMark_iff.1 marked) absent
  | quoted other =>
      by_cases same : mark = other
      · subst same
        have opened : (Quoting.quoted mark).step mark = .outside := if_pos rfl
        have stays : Quoting.outside.after text = .outside :=
          after_of_isUnquoted rfl (isMarked_after []) unquoted
        rw [after_cons, opened, after_append, stays]
        exact step_mark (isMark_iff.1 marked)
      · apply after_of_notMem
        have absent := unquoted.notMem (quotingMarked other rfl)
        simp [absent, Ne.symm same]
  | literal => cases shown
  | escaped => cases shown

/-- Two single quotes leave everything open that is, and nothing else. -/
theorem after_two_quotes (shown : quoting.hides = false) (marked : quoting.IsMarked) :
    quoting.after ['\'', '\''] = quoting := by
  cases quoting with
  | outside => rfl
  | quoted other =>
      apply after_of_notMem
      rcases isMark_iff.1 (marked other rfl) with rfl | rfl <;> decide
  | literal => cases shown
  | escaped => cases shown

/-- A mention without quotes in its name leaves everything open that is, and nothing else. -/
theorem after_characters (shown : quoting.hides = false) (marked : quoting.IsMarked)
    {mention : Mention} {before : Option Char} {after : List Char}
    (stands : mention.StandsBetween before after) (unquoted : IsUnquoted mention.identifier) :
    quoting.after mention.characters = quoting := by
  cases mention with
  | backtick identifier =>
      exact after_between_marks shown marked rfl (isUnquoted_append isUnquoted_tableMark unquoted)
  | doubleQuote identifier =>
      exact after_between_marks shown marked rfl (isUnquoted_append isUnquoted_tableMark unquoted)
  | bare identifier =>
      exact after_of_isUnquoted shown marked (isUnquoted_append isUnquoted_tableMark unquoted)
  | emptyLiteral quote =>
      rw [Mention.characters, after_append, after_of_isUnquoted shown marked isUnquoted_tableMark]
      rcases stands.2 with rfl | rfl
      · exact after_two_quotes shown marked
      · have nothing : IsUnquoted [] := by
          intro symbol member
          cases member
        exact after_between_marks shown marked (isMark_iff.2 (.inr rfl)) nothing

end Quoting

/-! ## Undisturbed code -/

variable {rename : Mention → Option (List Char)} {catalog : Catalog} {code : List Char}

/-- Names without quotes are balanced. -/
theorem balanced_of_isUnquoted
    (unquoted : ∀ mention name, .table mention ∈ parts catalog code → rename mention = some name →
      IsUnquoted mention.identifier ∧ IsUnquoted name) :
    Balanced rename .outside (parts catalog code) := by
  intro earlier mention later name cut named
  obtain ⟨shown, stands⟩ := stands_of_table cut
  obtain ⟨ofMention, ofName⟩ := unquoted mention name
    (by rw [cut]; exact List.mem_append_right _ (List.mem_cons_self ..)) named
  have marked := Quoting.isMarked_after (earlier.flatMap Part.characters)
  have standsName : (Mention.backtick name).StandsBetween none (later.flatMap Part.characters) :=
    ofName.notMem rfl
  rw [Quoting.after_characters shown marked stands ofMention,
    Quoting.after_characters shown marked standsName ofName]

/-- Where no mark is kept on its own, no open mark is closed. -/
theorem shut_of_notMem {parts : List Part}
    (unmarked : ∀ mark, isMark mark = true → Part.kept [mark] ∉ parts) : Shut rename parts := by
  intro earlier mark later cut marked
  refine absurd ?_ (unmarked mark marked)
  rw [cut]
  exact List.mem_append_right _ (List.mem_cons_self ..)

end Inquiry.Code
