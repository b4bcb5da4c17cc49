import Inquiry.Proofs.Parts
import Mathlib.Data.List.TakeWhile

/-!
# Blanks around code

Checking reads code without the blanks around it, and correction reads it as it
is.  Both find the same mentions (`mentions_trim`).  Blanks in front end where
a word may start, and the word before them is none; blanks after the code end
a bare name as the end of the code does, and close no mark.
-/

set_option autoImplicit false

namespace Inquiry.Code

open Inquiry.Text

/-- Every character of a text is a blank. -/
def IsBlankText (text : List Char) : Prop := ∀ symbol ∈ text, isBlank symbol = true

/-- A blank is a part of no word, no mark, no quote and no letter. -/
theorem of_isBlank {symbol : Char} (blank : isBlank symbol = true) :
    isWordSymbol symbol = false ∧ isBareSymbol symbol = false ∧ symbol.isAlpha = false ∧
      symbol ∉ ['`', '"', '\'', 't', 'a', 'b'] := by
  have checked : ∀ code ∈ blankCodes,
      isWordSymbol (Char.ofNat code) = false ∧ isBareSymbol (Char.ofNat code) = false ∧
        (Char.ofNat code).isAlpha = false ∧
          Char.ofNat code ∉ ['`', '"', '\'', 't', 'a', 'b'] := by
    decide +kernel
  rw [← Char.ofNat_toNat symbol]
  exact checked _ (isBlank_iff.1 blank)

theorem notMark_of_isBlank {symbol : Char} (blank : isBlank symbol = true) :
    ¬ isMark symbol = true := by
  have apart := (of_isBlank blank).2.2.2
  rw [isMark_iff]
  rintro (rfl | rfl)
  · exact apart (by decide)
  · exact apart (by decide)

/-- What begins a text with blanks after it, if no blank is in it, begins the text. -/
theorem isPrefix_of_isPrefix_append_blanks {word text blanks : List Char}
    (noBlank : ∀ symbol ∈ word, isBlank symbol = false) (allBlank : IsBlankText blanks)
    (begins : word <+: text ++ blanks) : word <+: text := by
  rcases List.prefix_or_prefix_of_prefix begins (List.prefix_append ..) with within | past
  · exact within
  · obtain ⟨more, rfl⟩ := past
    rw [List.prefix_append_right_inj] at begins
    cases more with
    | nil => exact ⟨[], by simp⟩
    | cons symbol more =>
        obtain ⟨rest, rfl⟩ := begins
        have notBlank := noBlank symbol (List.mem_append_right _ (List.mem_cons_self ..))
        rw [allBlank symbol (List.mem_cons_self ..)] at notBlank
        cases notBlank

theorem noBlank_tableMark : ∀ symbol ∈ tableMark, isBlank symbol = false := by
  intro symbol member
  simp only [tableMark, List.mem_cons, List.not_mem_nil, or_false] at member
  rcases member with rfl | rfl | rfl <;> decide

theorem noBlank_quotes {quote : Char} (isQuote : quote = '\'' ∨ quote = '"') :
    ∀ symbol ∈ [quote, quote], isBlank symbol = false := by
  intro symbol member
  obtain rfl : symbol = quote := by simpa using member
  rcases isQuote with rfl | rfl <;> decide

theorem mentionAt?_blank {symbol : Char} (blank : isBlank symbol = true) (before : Option Char)
    (rest : List Char) : mentionAt? before (symbol :: rest) = none := by
  have apart := (of_isBlank blank).2.2.2
  rw [mentionAt?_eq_none_iff, if_neg]
  · rintro - begins
    rw [← (List.cons_prefix_cons.1 begins).1] at apart
    exact apart (by decide)
  · exact notMark_of_isBlank blank

/-! ## Blanks after code -/

/-- A mention stands before code with blanks after it as it stands before the code. -/
theorem standsBetween_append_blanks {mention : Mention} {before : Option Char}
    {after blanks : List Char} (allBlank : IsBlankText blanks)
    (stands : mention.StandsBetween before after) :
    mention.StandsBetween before (after ++ blanks) := by
  cases mention with
  | backtick identifier => exact stands
  | doubleQuote identifier => exact stands
  | bare identifier =>
      obtain ⟨starts, bare, ends, unpaired⟩ := stands
      refine ⟨starts, bare, ?_, fun isEmpty => ⟨fun begins => ?_, fun begins => ?_⟩⟩
      · intro symbol isHead
        cases after with
        | nil =>
            obtain ⟨rest, rfl⟩ := List.head?_eq_some_iff.1 isHead
            exact (of_isBlank (allBlank symbol (List.mem_cons_self ..))).2.1
        | cons first after => exact ends symbol isHead
      · exact (unpaired isEmpty).1
          (isPrefix_of_isPrefix_append_blanks (noBlank_quotes (.inl rfl)) allBlank begins)
      · exact (unpaired isEmpty).2
          (isPrefix_of_isPrefix_append_blanks (noBlank_quotes (.inr rfl)) allBlank begins)
  | emptyLiteral quote => exact stands

theorem tokensFrom_blanks {blanks : List Char} (allBlank : IsBlankText blanks)
    (before text : List Char) :
    tokensFrom before (blanks ++ text) =
      blanks.map Token.plain ++ tokensFrom (blanks.reverse ++ before) text := by
  induction blanks generalizing before with
  | nil => rfl
  | cons symbol rest ih =>
      have none := mentionAt?_blank (allBlank symbol (List.mem_cons_self ..)) before.head?
        (rest ++ text)
      rw [List.cons_append, tokensFrom_of_none none,
        ih (fun later member => allBlank later (List.mem_cons_of_mem _ member))]
      simp

/-- The tokens of code with blanks after it are those of the code and then the blanks. -/
theorem tokensFrom_append_blanks {blanks : List Char} (allBlank : IsBlankText blanks)
    (before text : List Char) :
    tokensFrom before (text ++ blanks) = tokensFrom before text ++ blanks.map Token.plain := by
  fun_induction tokensFrom before text with
  | case1 before =>
      have ofBlanks := tokensFrom_blanks allBlank before []
      rw [List.append_nil, tokensFrom, List.append_nil] at ofBlanks
      exact ofBlanks
  | case2 before symbol rest mention after found ih =>
      obtain ⟨whole, stands⟩ := mentionAt?_eq_some_iff.1 found
      have again : mentionAt? before.head? (symbol :: rest ++ blanks) =
          some (mention, after ++ blanks) :=
        mentionAt?_eq_some_iff.2
          ⟨by rw [whole, List.append_assoc], standsBetween_append_blanks allBlank stands⟩
      rw [tokensFrom_of_mention again, ih, List.cons_append]
  | case3 before symbol rest found ih =>
      have again : mentionAt? before.head? (symbol :: (rest ++ blanks)) = none := by
        rw [mentionAt?_eq_none_iff] at found ⊢
        by_cases marked : isMark symbol
        · rw [if_pos marked] at found ⊢
          intro begins inside
          have absent :=
            found (isPrefix_of_isPrefix_append_blanks noBlank_tableMark allBlank begins)
          rcases List.mem_append.1 inside with inRest | inBlanks
          · exact absent inRest
          · exact notMark_of_isBlank (allBlank symbol inBlanks) marked
        · rw [if_neg marked] at found ⊢
          intro starts begins
          have begins : tableMark <+: (symbol :: rest) ++ blanks := begins
          exact found starts (isPrefix_of_isPrefix_append_blanks noBlank_tableMark allBlank begins)
      rw [List.cons_append, tokensFrom_of_none again, ih, List.cons_append]

/-! ## Blanks in front of code -/

/-- Of the character in front, a mention depends on whether a word may start after it. -/
theorem mentionAt?_congr {before other : Option Char}
    (same : startsWordAfter before = startsWordAfter other) (text : List Char) :
    mentionAt? before text = mentionAt? other text := by
  cases text with
  | nil => rfl
  | cons symbol rest => rw [mentionAt?, mentionAt?, same]

/-- Blanks in front of code start no word and end none. -/
theorem startsWordAfter_append_blanks {blanks : List Char} (allBlank : IsBlankText blanks)
    (before : List Char) :
    startsWordAfter (before ++ blanks).head? = startsWordAfter before.head? := by
  cases before with
  | nil =>
      cases blanks with
      | nil => rfl
      | cons symbol rest =>
          have noWord := (of_isBlank (allBlank symbol (List.mem_cons_self ..))).1
          simp [startsWordAfter, noWord]
  | cons symbol before => rfl

/-- The word before does not reach into the blanks in front of code. -/
theorem wordBefore_append_blanks {blanks : List Char} (allBlank : IsBlankText blanks)
    (before : List Char) : wordBefore (before ++ blanks) = wordBefore before := by
  have noLetter : blanks.takeWhile Char.isAlpha = [] := by
    cases blanks with
    | nil => rfl
    | cons symbol rest =>
        have notLetter := (of_isBlank (allBlank symbol (List.mem_cons_self ..))).2.2.1
        rw [List.takeWhile_cons_of_neg (by simp [notLetter])]
  have dropped : blanks.dropWhile isBlank = [] := List.dropWhile_eq_nil_iff.2 allBlank
  rw [wordBefore, wordBefore, List.dropWhile_append]
  split
  case isTrue isEmpty => rw [dropped, List.isEmpty_iff.1 isEmpty]
  case isFalse =>
    rw [List.takeWhile_append]
    split
    case isTrue allLetters =>
      rw [noLetter, List.append_nil, (List.takeWhile_prefix _).eq_of_length allLetters]
    case isFalse => rfl

/-- Blanks in front of code do not change its tokens. -/
theorem tokensFrom_of_blanks {blanks : List Char} (allBlank : IsBlankText blanks)
    (before text : List Char) : tokensFrom (before ++ blanks) text = tokensFrom before text := by
  have sameMention : ∀ before text : List Char,
      mentionAt? (before ++ blanks).head? text = mentionAt? before.head? text := fun before text =>
    mentionAt?_congr (startsWordAfter_append_blanks allBlank before) text
  fun_induction tokensFrom before text with
  | case1 before => rw [tokensFrom]
  | case2 before symbol rest mention after found ih =>
      rw [← sameMention] at found
      rw [tokensFrom_of_mention found, ← List.append_assoc, ih, expectsTable, expectsTable,
        wordBefore_append_blanks allBlank]
  | case3 before symbol rest found ih =>
      rw [← sameMention] at found
      rw [tokensFrom_of_none found, ← List.cons_append, ih]

/-! ## Trimmed code -/

theorem isBlankText_takeWhile (text : List Char) : IsBlankText (text.takeWhile isBlank) :=
  fun symbol member => List.all_eq_true.1 List.all_takeWhile symbol member

/-- Trimming takes away the blanks that a text begins with, and blanks at its end. -/
theorem exists_blanks_behind (text : List Char) :
    ∃ back, IsBlankText back ∧ text = text.takeWhile isBlank ++ trim text ++ back := by
  refine ⟨((text.dropWhile isBlank).reverse.takeWhile isBlank).reverse,
    fun symbol member => isBlankText_takeWhile _ symbol (List.mem_reverse.1 member), ?_⟩
  rw [List.append_assoc, trim, trimWhere, trimEndWhere, trimStartWhere, ← List.reverse_append,
    List.takeWhile_append_dropWhile, List.reverse_reverse, List.takeWhile_append_dropWhile]

/-- Trimming takes blanks away from both ends. -/
theorem exists_blanks_around (text : List Char) :
    ∃ front back, IsBlankText front ∧ IsBlankText back ∧ text = front ++ trim text ++ back := by
  obtain ⟨back, backBlank, same⟩ := exists_blanks_behind text
  exact ⟨_, back, isBlankText_takeWhile text, backBlank, same⟩

/-- The tokens of code are those of the trimmed code, between blanks. -/
theorem exists_tokens_around (code : List Char) :
    ∃ back, tokens code =
      (code.takeWhile isBlank).map Token.plain ++
        (tokens (trim code) ++ List.map Token.plain back) := by
  obtain ⟨back, backBlank, same⟩ := exists_blanks_behind code
  have frontBlank := isBlankText_takeWhile code
  have reversed : IsBlankText (code.takeWhile isBlank).reverse := fun symbol member =>
    frontBlank symbol (List.mem_reverse.1 member)
  have core := tokensFrom_of_blanks reversed [] (trim code)
  rw [List.nil_append] at core
  refine ⟨back, ?_⟩
  rw [tokens, tokens, ← core, ← tokensFrom_append_blanks backBlank,
    ← List.append_nil (code.takeWhile isBlank).reverse, ← tokensFrom_blanks frontBlank,
    ← List.append_assoc, ← same]

theorem partsOf_append (catalog : Catalog) (quoting : Quoting) (first second : List Token) :
    partsOf catalog quoting (first ++ second) =
      partsOf catalog quoting first ++
        partsOf catalog (quoting.after (first.flatMap Token.characters)) second := by
  induction first generalizing quoting with
  | nil => rfl
  | cons token rest ih =>
      rw [List.cons_append, partsOf, ih, partsOf, List.flatMap_cons, Quoting.after_append,
        List.cons_append]

/-- Plain characters are kept, whatever quotes are open. -/
theorem partsOf_map_plain (catalog : Catalog) (quoting : Quoting) (text : List Char) :
    partsOf catalog quoting (text.map Token.plain) = text.map fun symbol => .kept [symbol] := by
  induction text generalizing quoting with
  | nil => rfl
  | cons symbol rest ih => rw [List.map_cons, partsOf_plain, ih, List.map_cons]

theorem mentionsOf_map_kept (text : List Char) :
    mentionsOf (text.map fun symbol => .kept [symbol]) = [] := by
  induction text with
  | nil => rfl
  | cons symbol rest ih => exact ih

theorem after_blanks {blanks : List Char} (allBlank : IsBlankText blanks) :
    Quoting.outside.after blanks = .outside := by
  induction blanks with
  | nil => rfl
  | cons symbol rest ih =>
      have apart := (of_isBlank (allBlank symbol (List.mem_cons_self ..))).2.2.2
      have noMark : ¬ (symbol = '`' ∨ symbol = '"') := by
        rintro (rfl | rfl) <;> exact apart (by decide)
      have noQuote : symbol ≠ '\'' := by
        rintro rfl
        exact apart (by decide)
      rw [Quoting.after_cons, Quoting.step, if_neg noMark, if_neg noQuote]
      exact ih fun later member => allBlank later (List.mem_cons_of_mem _ member)

/-- The parts of code are those of the trimmed code, between blanks that are kept. -/
theorem exists_parts_around (catalog : Catalog) (code : List Char) :
    ∃ back, parts catalog code =
      ((code.takeWhile isBlank).map fun symbol => .kept [symbol]) ++
        (parts catalog (trim code) ++ List.map (fun symbol => .kept [symbol]) back) := by
  obtain ⟨back, whole⟩ := exists_tokens_around code
  have ofFront : ((code.takeWhile isBlank).map Token.plain).flatMap Token.characters =
      code.takeWhile isBlank := by
    simp [List.flatMap_map, Token.characters]
  refine ⟨back, ?_⟩
  rw [parts, parts, whole, partsOf_append, partsOf_append, ofFront,
    after_blanks (isBlankText_takeWhile code), partsOf_map_plain, partsOf_map_plain]

/-- **Trimming code does not change its mentions.** -/
theorem mentions_trim (catalog : Catalog) (code : List Char) :
    mentionsOf (parts catalog (trim code)) = mentionsOf (parts catalog code) := by
  obtain ⟨back, whole⟩ := exists_parts_around catalog code
  rw [whole, mentionsOf_append, mentionsOf_append, mentionsOf_map_kept, mentionsOf_map_kept,
    List.nil_append, List.append_nil]

end Inquiry.Code
