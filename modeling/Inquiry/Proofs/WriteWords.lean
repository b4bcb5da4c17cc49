import Inquiry.Code.WriteKeyword
import Inquiry.Proofs.Balance
import Inquiry.Proofs.Trimming
import Mathlib.Data.List.Forall2

/-!
# Words that write

The search for a word that writes goes from place to place and tries one word
after another at each.  What it looks for can be said without it: a text is a
word that writes when its letters are forms of the letters of one of the words,
or when it is replace and into with blanks between (`IsWriteWord`).  The search
finds something exactly when such a text stands in the code with no word
character on either side (`isSome_writeWordFrom?_iff`), and what it finds is
such a text.

Words that write begin and end with a letter and hold no quote, so trimming
code takes nothing from them (`cut_of_trim`).
-/

set_option autoImplicit false

namespace Inquiry.Code

open Inquiry.Text

/-! ## Forms of words -/

/-- A text is a form of a word when its characters are forms of the letters of the word. -/
def IsForm (word written : List Char) : Prop :=
  List.Forall₂ (fun letter symbol => isFormOf letter symbol = true) word written

instance (word written : List Char) : Decidable (IsForm word written) :=
  inferInstanceAs (Decidable (List.Forall₂ _ word written))

/-- A text that writes: a form of one of the words, or of replace and into with blanks between. -/
def IsWriteWord (written : List Char) : Prop :=
  (∃ word ∈ writeWords, IsForm word written) ∨
    ∃ first blanks second, IsForm "replace".toList first ∧ blanks ≠ [] ∧ IsBlankText blanks ∧
      IsForm "into".toList second ∧ written = first ++ blanks ++ second

theorem wordAt?_eq_some_iff {word text written after : List Char} :
    wordAt? word text = some (written, after) ↔ IsForm word written ∧ text = written ++ after := by
  induction word generalizing text written with
  | nil =>
      rw [IsForm, List.forall₂_nil_left_iff, wordAt?, Option.some.injEq, Prod.mk.injEq]
      constructor
      · rintro ⟨rfl, rfl⟩
        exact ⟨rfl, rfl⟩
      · rintro ⟨rfl, rfl⟩
        exact ⟨rfl, rfl⟩
  | cons letter word ih =>
      rw [IsForm, List.forall₂_cons_left_iff]
      cases text with
      | nil =>
          apply iff_of_false nofun
          rintro ⟨⟨symbol, rest, -, -, rfl⟩, same⟩
          cases same
      | cons symbol rest =>
          rw [wordAt?]
          by_cases form : isFormOf letter symbol = true
          · rw [if_pos form, Option.map_eq_some_iff]
            constructor
            · rintro ⟨⟨tail, left⟩, found, same⟩
              cases same
              obtain ⟨ofTail, rfl⟩ := ih.1 found
              exact ⟨⟨symbol, tail, form, ofTail, rfl⟩, rfl⟩
            · rintro ⟨⟨other, tail, -, ofTail, rfl⟩, same⟩
              obtain ⟨rfl, rfl⟩ := List.cons.inj same
              exact ⟨(tail, after), ih.2 ⟨ofTail, rfl⟩, rfl⟩
          · rw [if_neg form]
            apply iff_of_false nofun
            rintro ⟨⟨other, tail, isForm, -, rfl⟩, same⟩
            obtain ⟨rfl, -⟩ := List.cons.inj same
            exact form isForm

/-- A letter has no quote and no blank for a form. -/
theorem of_isFormOf {letter symbol : Char} (isLetter : letter.isAlpha = true)
    (form : isFormOf letter symbol = true) :
    (symbol ≠ '`' ∧ symbol ≠ '"' ∧ symbol ≠ '\'') ∧ isBlank symbol = false := by
  simp only [isFormOf, Bool.or_eq_true, Bool.and_eq_true, decide_eq_true_eq] at form
  rcases form with (rfl | ⟨-, rfl⟩) | ⟨-, rfl⟩
  · refine ⟨⟨?_, ?_, ?_⟩, Bool.eq_false_iff.2 fun blank => ?_⟩
    · rintro rfl
      exact absurd isLetter (by decide)
    · rintro rfl
      exact absurd isLetter (by decide)
    · rintro rfl
      exact absurd isLetter (by decide)
    · have noCapitals : ∀ code ∈ blankCodes, ¬ (65 ≤ code ∧ code ≤ 90) := by decide
      have notCapital : ¬ (symbol.val ≥ 'A'.val ∧ symbol.val ≤ 'Z'.val) := fun capital =>
        noCapitals _ (isBlank_iff.1 blank) ⟨UInt32.le_iff_toNat_le.1 capital.1,
          UInt32.le_iff_toNat_le.1 capital.2⟩
      have unchanged : symbol.toLower = symbol := dif_neg notCapital
      rw [unchanged, (of_isBlank blank).2.2.1] at isLetter
      cases isLetter
  · decide
  · decide

/-- The words that write, and the two that write together. -/
def writingParts : List (List Char) := "replace".toList :: "into".toList :: writeWords

theorem writingParts_alpha {word : List Char} (member : word ∈ writingParts) :
    word ≠ [] ∧ ∀ letter ∈ word, letter.isAlpha = true := by
  have checked : writingParts.all (fun word => !word.isEmpty && word.all Char.isAlpha) = true := rfl
  simpa using List.all_eq_true.1 checked word member

theorem IsForm.ne_nil {word written : List Char} (form : IsForm word written)
    (member : word ∈ writingParts) : written ≠ [] := by
  rintro rfl
  exact (writingParts_alpha member).1 (List.forall₂_nil_right_iff.1 form)

/-- No character of a form of a word is a quote or a blank. -/
theorem IsForm.of_mem {word written : List Char} (form : IsForm word written)
    (member : word ∈ writingParts) {symbol : Char} (inWritten : symbol ∈ written) :
    (symbol ≠ '`' ∧ symbol ≠ '"' ∧ symbol ≠ '\'') ∧ isBlank symbol = false := by
  have letters := (writingParts_alpha member).2
  clear member
  induction form with
  | nil => cases inWritten
  | cons ofFirst _ ih =>
      rcases List.mem_cons.1 inWritten with rfl | inRest
      · exact of_isFormOf (letters _ (List.mem_cons_self ..)) ofFirst
      · exact ih inRest fun letter later => letters letter (List.mem_cons_of_mem _ later)

/-- A text that is neither empty nor begins or ends with a blank. -/
structure IsTrimmed (text : List Char) : Prop where
  /-- Some character begins the text, and it is no blank. -/
  begins : ∃ symbol rest, text = symbol :: rest ∧ isBlank symbol = false
  /-- Some character ends the text, and it is no blank. -/
  ends : ∃ front symbol, text = front ++ [symbol] ∧ isBlank symbol = false

theorem IsForm.isTrimmed {word written : List Char} (form : IsForm word written)
    (member : word ∈ writingParts) : IsTrimmed written where
  begins := by
    obtain ⟨symbol, rest, rfl⟩ := List.exists_cons_of_ne_nil (form.ne_nil member)
    exact ⟨symbol, rest, rfl, (form.of_mem member (List.mem_cons_self ..)).2⟩
  ends := by
    have whole := List.dropLast_append_getLast (form.ne_nil member)
    exact ⟨_, _, whole.symm, (form.of_mem member (List.getLast_mem _)).2⟩

theorem mem_writingParts {word : List Char} (member : word ∈ writeWords) : word ∈ writingParts :=
  List.mem_cons_of_mem _ (List.mem_cons_of_mem _ member)

theorem replace_mem : "replace".toList ∈ writingParts := List.mem_cons_self ..

theorem into_mem : "into".toList ∈ writingParts :=
  List.mem_cons_of_mem _ (List.mem_cons_self ..)

/-- Words that write begin and end with a letter. -/
theorem IsWriteWord.isTrimmed {written : List Char} (writes : IsWriteWord written) :
    IsTrimmed written := by
  rcases writes with ⟨word, member, form⟩ | ⟨first, blanks, second, ofFirst, -, -, ofSecond, rfl⟩
  · exact form.isTrimmed (mem_writingParts member)
  · obtain ⟨symbol, rest, rfl, notBlank⟩ := (ofFirst.isTrimmed replace_mem).begins
    obtain ⟨front, last, rfl, notBlankLast⟩ := (ofSecond.isTrimmed into_mem).ends
    exact ⟨⟨symbol, _, rfl, notBlank⟩,
      ⟨symbol :: rest ++ blanks ++ front, last, by simp, notBlankLast⟩⟩

/-- Words that write hold no quote. -/
theorem IsWriteWord.isUnquoted {written : List Char} (writes : IsWriteWord written) :
    IsUnquoted written := by
  rcases writes with ⟨word, member, form⟩ |
    ⟨first, blanks, second, ofFirst, -, allBlank, ofSecond, rfl⟩
  · intro symbol inWritten
    exact (form.of_mem (mem_writingParts member) inWritten).1
  · refine isUnquoted_append (isUnquoted_append ?_ ?_) ?_
    · intro symbol inFirst
      exact (ofFirst.of_mem replace_mem inFirst).1
    · intro symbol inBlanks
      have apart := (of_isBlank (allBlank symbol inBlanks)).2.2.2
      simp only [List.mem_cons, not_or] at apart
      exact ⟨apart.1, apart.2.1, apart.2.2.1⟩
    · intro symbol inSecond
      exact (ofSecond.of_mem into_mem inSecond).1

/-! ## Finding words -/

/-- The two words that write together are found with the blanks between them. -/
theorem replaceInto?_eq_some_iff {text written after : List Char} :
    replaceInto? text = some (written, after) ↔
      (∃ first blanks second, IsForm "replace".toList first ∧ blanks ≠ [] ∧ IsBlankText blanks ∧
        IsForm "into".toList second ∧ written = first ++ blanks ++ second) ∧
        text = written ++ after := by
  have staged : replaceInto? text = some (written, after) ↔
      ∃ first rest second, wordAt? "replace".toList text = some (first, rest) ∧
        rest.takeWhile isBlank ≠ [] ∧
        wordAt? "into".toList (rest.dropWhile isBlank) = some (second, after) ∧
        written = first ++ rest.takeWhile isBlank ++ second := by
    simp only [replaceInto?, Option.bind_eq_bind, Option.bind_eq_some_iff, Prod.exists]
    apply exists_congr
    intro first
    apply exists_congr
    intro rest
    by_cases noBlank : rest.takeWhile isBlank = []
    · simp [noBlank]
    · simp [noBlank, Option.bind_eq_some_iff, @eq_comm _ written]
  rw [staged]
  constructor
  · rintro ⟨first, rest, second, ofFirst, notEmpty, ofSecond, rfl⟩
    obtain ⟨formFirst, rfl⟩ := wordAt?_eq_some_iff.1 ofFirst
    obtain ⟨formSecond, dropped⟩ := wordAt?_eq_some_iff.1 ofSecond
    have whole : rest.takeWhile isBlank ++ rest.dropWhile isBlank = rest :=
      List.takeWhile_append_dropWhile
    refine ⟨⟨first, rest.takeWhile isBlank, second, formFirst, notEmpty, ?_, formSecond, rfl⟩, ?_⟩
    · intro symbol member
      exact List.all_eq_true.1 List.all_takeWhile symbol member
    · rw [dropped] at whole
      rw [List.append_assoc, List.append_assoc, whole]
  · rintro ⟨⟨first, blanks, second, ofFirst, notEmpty, allBlank, ofSecond, rfl⟩, rfl⟩
    obtain ⟨symbol, tail, same, notBlank⟩ := (ofSecond.isTrimmed into_mem).begins
    have ends : ¬ isBlank symbol = true := by simp [notBlank]
    have taken : (blanks ++ (second ++ after)).takeWhile isBlank = blanks := by
      rw [List.takeWhile_append_of_pos allBlank, same, List.cons_append,
        List.takeWhile_cons_of_neg ends, List.append_nil]
    have dropped : (blanks ++ (second ++ after)).dropWhile isBlank = second ++ after := by
      rw [List.dropWhile_append_of_pos allBlank, same, List.cons_append,
        List.dropWhile_cons_of_neg ends]
    refine ⟨first, blanks ++ (second ++ after), second,
      wordAt?_eq_some_iff.2 ⟨ofFirst, by simp⟩, ?_, ?_, ?_⟩
    · rwa [taken]
    · rw [dropped]
      exact wordAt?_eq_some_iff.2 ⟨ofSecond, rfl⟩
    · rw [taken]

theorem endingWord_eq_some_iff {found : Option (List Char × List Char)} {written : List Char} :
    endingWord found = some written ↔
      ∃ after, found = some (written, after) ∧ startsWordAfter after.head? = true := by
  cases found with
  | none => simp [endingWord]
  | some pair =>
      rw [endingWord]
      by_cases ends : startsWordAfter pair.2.head? = true
      · rw [if_pos ends, Option.some.injEq]
        constructor
        · rintro rfl
          exact ⟨pair.2, rfl, ends⟩
        · rintro ⟨after, same, -⟩
          rw [Option.some.inj same]
      · rw [if_neg ends]
        apply iff_of_false nofun
        rintro ⟨after, same, isEnd⟩
        rw [Option.some.inj same] at ends
        exact ends isEnd

/-- What is found at the start of a text is a word that writes and ends there. -/
theorem writeWordAt?_eq_some {text written : List Char} (found : writeWordAt? text = some written) :
    ∃ after, IsWriteWord written ∧ text = written ++ after ∧
      startsWordAfter after.head? = true := by
  rw [writeWordAt?, Option.or_eq_some_iff] at found
  rcases found with ofWords | ⟨-, ofPair⟩
  · obtain ⟨word, member, found⟩ := List.exists_of_findSome?_eq_some ofWords
    obtain ⟨after, found, ends⟩ := endingWord_eq_some_iff.1 found
    obtain ⟨form, same⟩ := wordAt?_eq_some_iff.1 found
    exact ⟨after, .inl ⟨word, member, form⟩, same, ends⟩
  · obtain ⟨after, found, ends⟩ := endingWord_eq_some_iff.1 ofPair
    obtain ⟨form, same⟩ := replaceInto?_eq_some_iff.1 found
    exact ⟨after, .inr form, same, ends⟩

theorem isSome_writeWordAt? {written after : List Char} (writes : IsWriteWord written)
    (ends : startsWordAfter after.head? = true) :
    (writeWordAt? (written ++ after)).isSome = true := by
  rw [writeWordAt?, Option.isSome_or, Bool.or_eq_true]
  rcases writes with ⟨word, member, form⟩ | pair
  · left
    rw [List.findSome?_isSome_iff]
    refine ⟨word, member, ?_⟩
    rw [endingWord_eq_some_iff.2 ⟨after, wordAt?_eq_some_iff.2 ⟨form, rfl⟩, ends⟩]
    rfl
  · right
    rw [endingWord_eq_some_iff.2 ⟨after, replaceInto?_eq_some_iff.2 ⟨pair, rfl⟩, ends⟩]
    rfl

theorem getLast?_cons_or (symbol : Char) (front : List Char) (before : Option Char) :
    (symbol :: front).getLast?.or before = front.getLast?.or (some symbol) := by
  rw [← List.singleton_append, List.getLast?_append, Option.or_assoc, List.getLast?_singleton,
    Option.some_or]

/-- What the search finds is a word that writes, with no word character on either side. -/
theorem writeWordFrom?_eq_some {before : Option Char} {text written : List Char}
    (found : writeWordFrom? before text = some written) :
    ∃ front back, IsWriteWord written ∧ text = front ++ written ++ back ∧
      startsWordAfter (front.getLast?.or before) = true ∧ startsWordAfter back.head? = true := by
  fun_induction writeWordFrom? before text with
  | case1 => cases found
  | case2 before symbol rest here other isHere =>
      obtain rfl := Option.some.inj found
      obtain ⟨starts, isHere⟩ := Option.ite_none_right_eq_some.1 isHere
      obtain ⟨back, writes, same, ends⟩ := writeWordAt?_eq_some isHere
      exact ⟨[], back, writes, same, starts, ends⟩
  | case3 before symbol rest here nothing ih =>
      obtain ⟨front, back, writes, rfl, starts, ends⟩ := ih found
      exact ⟨symbol :: front, back, writes, rfl, by rwa [getLast?_cons_or], ends⟩

/-- The search finds something where a word that writes stands with no word character on either
side. -/
theorem isSome_writeWordFrom? {before : Option Char} {front written back : List Char}
    (writes : IsWriteWord written) (starts : startsWordAfter (front.getLast?.or before) = true)
    (ends : startsWordAfter back.head? = true) :
    (writeWordFrom? before (front ++ written ++ back)).isSome = true := by
  induction front generalizing before with
  | nil =>
      obtain ⟨symbol, rest, same, -⟩ := writes.isTrimmed.begins
      have isHere := isSome_writeWordAt? writes ends
      rw [same, List.cons_append] at isHere
      obtain ⟨other, isHere⟩ := Option.isSome_iff_exists.1 isHere
      have starts : startsWordAfter before = true := starts
      rw [List.nil_append, same, List.cons_append, writeWordFrom?, if_pos starts, isHere]
      rfl
  | cons symbol front ih =>
      rw [getLast?_cons_or] at starts
      rw [List.cons_append, List.cons_append, writeWordFrom?]
      split
      case h_1 => rfl
      case h_2 => exact ih starts

/-! ## Trimmed code -/

/-- Blanks around code take nothing from a text in it that begins and ends with no blank. -/
theorem cut_of_blanks_around {front core back before written after : List Char}
    (frontBlank : IsBlankText front) (backBlank : IsBlankText back) (trimmed : IsTrimmed written)
    (cut : front ++ core ++ back = before ++ written ++ after) :
    ∃ before' after', before = front ++ before' ∧ after = after' ++ back ∧
      core = before' ++ written ++ after' := by
  obtain ⟨before', rfl⟩ : ∃ before', before = front ++ before' := by
    obtain ⟨symbol, rest, rfl, notBlank⟩ := trimmed.begins
    rw [List.append_assoc, List.append_assoc, List.cons_append] at cut
    apply (cut_of_append cut).resolve_left
    rintro ⟨between, inFront⟩
    have blank := frontBlank symbol (by simp [inFront])
    rw [blank] at notBlank
    cases notBlank
  rw [List.append_assoc, List.append_assoc, List.append_assoc, List.append_cancel_left_eq] at cut
  obtain ⟨init, symbol, rfl, notBlank⟩ := trimmed.ends
  have cut : core ++ back = (before' ++ init) ++ symbol :: after := by simpa using cut
  rcases cut_of_append cut with ⟨after', rfl⟩ | ⟨between, same⟩
  · refine ⟨before', after', rfl, ?_, by simp⟩
    simpa using cut.symm
  · rw [same, List.append_assoc, List.append_cancel_left_eq] at cut
    have blank := backBlank symbol (by simp [cut])
    rw [blank] at notBlank
    cases notBlank

end Inquiry.Code
