import Inquiry.Proofs.Lowering
import Inquiry.Proofs.Mentions
import Inquiry.Proofs.Repair
import Mathlib.Data.List.Infix

/-!
# Keywords and where they stand

The keywords of an entity are made from its phrases, which are its name and its
aliases.  Each phrase that is not blank is spelled in two ways, with its words in
lower case joined by one blank or by nothing, and each spelling is a keyword and
so is its plural (`mem_keywords_iff`).  A plural begins with what it is the plural
of.  So some keyword of an entity stands in a text exactly when a spelling does
(`isNamedIn_iff`).

An occurrence of a keyword is a cut of the text into what is before, the keyword
and what is after (`Stands`).  Occurrences that overlap an earlier one are not
counted, and yet one is found wherever there is one
(`isSome_occurrence?_iff`).
-/

set_option autoImplicit false

namespace Inquiry

open Inquiry.Text

namespace Text

/-- The words of a text are its characters without the blanks. -/
theorem flatten_words (text : List Char) : (words text).flatten = withoutBlanks text := by
  have pieces : (splitWhere isBlank text).flatten = withoutBlanks text := by
    induction text with
    | nil => rfl
    | cons symbol rest ih =>
        rw [splitWhere]
        split
        case isTrue blank => simp [withoutBlanks, blank, ih]
        case isFalse notBlank =>
          rw [withoutBlanks, List.filter_cons_of_pos (by simp [notBlank]), ← withoutBlanks, ← ih]
          split
          case h_1 none => simp [none]
          case h_2 piece pieces cut => simp [cut]
  rw [words, ← pieces]
  exact List.flatten_filter_not_isEmpty

theorem words_eq_nil_iff {text : List Char} : words text = [] ↔ withoutBlanks text = [] := by
  rw [← flatten_words, List.flatten_eq_nil_iff]
  constructor
  · intro none word member
    rw [none] at member
    cases member
  · intro allEmpty
    apply List.eq_nil_iff_forall_not_mem.2
    intro word member
    exact (of_mem_words member).1 (allEmpty word member)

end Text

namespace Detection

/-! ## Spellings -/

/-- The ways to spell a phrase: its words in lower case, joined by one blank or by nothing. -/
def spellings (phrase : String) : List (List Char) :=
  [joinWords (words (lower phrase.toList)), (words (lower phrase.toList)).flatten]

theorem joinWords_eq_nil_iff {given : List (List Char)} (noneEmpty : ∀ word ∈ given, word ≠ []) :
    joinWords given = [] ↔ given = [] := by
  cases given with
  | nil => exact iff_of_true rfl rfl
  | cons word rest =>
      refine iff_of_false (fun isEmpty => ?_) (List.cons_ne_nil _ _)
      have notEmpty := noneEmpty word (List.mem_cons_self ..)
      cases rest with
      | nil => exact notEmpty isEmpty
      | cons next others => exact notEmpty (List.append_eq_nil_iff.1 isEmpty).1

/-- Words joined by blanks are words joined by nothing when the blanks are left out. -/
theorem filter_joinWords {given : List (List Char)}
    (noBlanks : ∀ word ∈ given, ∀ symbol ∈ word, isBlank symbol = false) :
    (joinWords given).filter (· != ' ') = given.flatten := by
  have kept : ∀ word ∈ given, word.filter (· != ' ') = word := by
    intro word isWord
    refine List.filter_eq_self.2 fun symbol member => bne_iff_ne.2 ?_
    rintro rfl
    exact absurd (noBlanks word isWord ' ' member) (by decide)
  induction given with
  | nil => rfl
  | cons word rest ih =>
      obtain ⟨keptWord, keptRest⟩ := List.forall_mem_cons.1 kept
      cases rest with
      | nil => rw [joinWords, keptWord, List.flatten_singleton]
      | cons next others =>
          have joined := ih
            (fun one member => noBlanks one (List.mem_cons_of_mem _ member)) keptRest
          rw [joinWords, List.filter_append, keptWord, List.filter_cons_of_neg (by decide), joined]
          · rfl
          · exact List.cons_ne_nil _ _

/-- The keywords of a phrase are its spellings and their plurals, unless the phrase is blank. -/
theorem phraseKeywords_eq (phrase : String) :
    phraseKeywords phrase =
      if withoutBlanks phrase.toList = [] then []
      else (spellings phrase).flatMap fun spelling => spelling :: (plural? spelling).toList := by
  have noneEmpty : ∀ word ∈ words (lower phrase.toList), word ≠ [] := by
    intro word member
    exact (of_mem_words member).1
  have noBlanks : ∀ word ∈ words (lower phrase.toList), ∀ symbol ∈ word,
      isBlank symbol = false := by
    intro word member
    exact (of_mem_words member).2
  have isEmpty_iff : (joinWords (words (lower phrase.toList))).isEmpty = true ↔
      withoutBlanks phrase.toList = [] := by
    rw [List.isEmpty_iff, joinWords_eq_nil_iff noneEmpty, words_lower, List.map_eq_nil_iff,
      words_eq_nil_iff]
  rw [phraseKeywords]
  simp only [lower_joinWords, ← words_lower, filter_joinWords noBlanks]
  by_cases blank : withoutBlanks phrase.toList = []
  · rw [if_pos (isEmpty_iff.2 blank), if_pos blank]
  · rw [if_neg (fun isEmpty => blank (isEmpty_iff.1 isEmpty)), if_neg blank]
    simp [spellings]

theorem mem_firstOnly_iff {seen given : List (List Char)} {keyword : List Char} :
    keyword ∈ firstOnly seen given ↔ keyword ∈ seen ∨ keyword ∈ given := by
  induction given generalizing seen with
  | nil => simp [firstOnly]
  | cons first rest ih =>
      rw [firstOnly, ih, List.mem_cons]
      split
      case isTrue isSeen =>
        have member := List.contains_iff_mem.1 isSeen
        constructor
        · rintro (earlier | later)
          · exact .inl earlier
          · exact .inr (.inr later)
        · rintro (earlier | rfl | later)
          · exact .inl earlier
          · exact .inl member
          · exact .inr later
      case isFalse => simp [or_assoc]

/-- **The keywords of an entity are the spellings of its name and its aliases, and their plurals;
a blank alias has none.** -/
theorem mem_keywords_iff {entity : Entity} {keyword : List Char} :
    keyword ∈ keywords entity ↔
      ∃ phrase ∈ entity.name :: entity.aliases, withoutBlanks phrase.toList ≠ [] ∧
        ∃ spelling ∈ spellings phrase, keyword = spelling ∨ plural? spelling = some keyword := by
  rw [keywords, mem_firstOnly_iff, or_iff_right List.not_mem_nil, List.mem_flatMap]
  apply exists_congr
  intro phrase
  apply and_congr_right
  intro _
  rw [phraseKeywords_eq]
  split
  case isTrue blank => exact iff_of_false List.not_mem_nil fun both => both.1 blank
  case isFalse notBlank =>
    rw [and_iff_right notBlank, List.mem_flatMap]
    simp only [List.mem_cons, Option.mem_toList]

/-- A spelling of a phrase that is not blank is not empty. -/
theorem ne_nil_of_mem_spellings {phrase : String} (notBlank : withoutBlanks phrase.toList ≠ [])
    {spelling : List Char} (member : spelling ∈ spellings phrase) : spelling ≠ [] := by
  have noneEmpty : ∀ word ∈ words (lower phrase.toList), word ≠ [] := by
    intro word member
    exact (of_mem_words member).1
  have some : words (lower phrase.toList) ≠ [] := by
    rw [words_lower, Ne, List.map_eq_nil_iff, words_eq_nil_iff]
    exact notBlank
  simp only [spellings, List.mem_cons, List.not_mem_nil, or_false] at member
  rcases member with rfl | rfl
  · intro isEmpty
    exact some ((joinWords_eq_nil_iff noneEmpty).1 isEmpty)
  · intro isEmpty
    obtain ⟨word, isWord⟩ := List.exists_mem_of_ne_nil _ some
    exact noneEmpty word isWord (List.flatten_eq_nil_iff.1 isEmpty word isWord)

/-- A plural begins with what it is the plural of. -/
theorem isPrefix_of_plural? {keyword plural : List Char}
    (isPlural : plural? keyword = some plural) :
    keyword <+: plural := by
  rw [plural?] at isPlural
  split at isPlural
  · cases isPlural
  · obtain rfl := Option.some.inj isPlural
    exact List.prefix_append _ _

theorem ne_nil_of_mem_keywords {entity : Entity} {keyword : List Char}
    (member : keyword ∈ keywords entity) : keyword ≠ [] := by
  obtain ⟨phrase, -, notBlank, spelling, isSpelling, rfl | isPlural⟩ := mem_keywords_iff.1 member
  · exact ne_nil_of_mem_spellings notBlank isSpelling
  · rintro rfl
    exact ne_nil_of_mem_spellings notBlank isSpelling
      (List.prefix_nil.1 (isPrefix_of_plural? isPlural))

end Detection

/-- A text holds a spelling of the name or an alias of the entity. -/
def Entity.IsMentionedIn (entity : Entity) (text : List Char) : Prop :=
  ∃ phrase ∈ entity.name :: entity.aliases,
    ∃ spelling ∈ Detection.spellings phrase, spelling <:+: text

/-- A text holds a spelling of the name or an alias of the entity, blank aliases apart. -/
def Entity.IsNamedIn (entity : Entity) (text : List Char) : Prop :=
  ∃ phrase ∈ entity.name :: entity.aliases, withoutBlanks phrase.toList ≠ [] ∧
    ∃ spelling ∈ Detection.spellings phrase, spelling <:+: text

namespace Detection

/-- An entity is named in a text exactly when one of its keywords stands there. -/
theorem isNamedIn_iff {entity : Entity} {text : List Char} :
    entity.IsNamedIn text ↔ ∃ keyword ∈ keywords entity, keyword <:+: text := by
  constructor
  · rintro ⟨phrase, isPhrase, notBlank, spelling, isSpelling, stands⟩
    exact ⟨spelling, mem_keywords_iff.2
      ⟨phrase, isPhrase, notBlank, spelling, isSpelling, .inl rfl⟩, stands⟩
  · rintro ⟨keyword, isKeyword, stands⟩
    obtain ⟨phrase, isPhrase, notBlank, spelling, isSpelling, rfl | isPlural⟩ :=
      mem_keywords_iff.1 isKeyword
    · exact ⟨phrase, isPhrase, notBlank, keyword, isSpelling, stands⟩
    · exact ⟨phrase, isPhrase, notBlank, spelling, isSpelling,
        (isPrefix_of_plural? isPlural).isInfix.trans stands⟩

/-! ## Occurrences -/

/-- An occurrence of a keyword is a cut of the text: it stands behind the text in front of it, and
it is a whole word when no word character is beside it. -/
def Stands (keyword text : List Char) (occurrence : Occurrence) : Prop :=
  ∃ before after, text = before ++ keyword ++ after ∧ occurrence.offset = byteSize before ∧
    occurrence.bounded = (bounds before.getLast? && bounds after.head?)

/-- What is found in the rest of a text stands in the text. -/
theorem stands_of_mem_occurrencesFrom {keyword front rest : List Char} {skip : Nat}
    {occurrence : Occurrence}
    (member : occurrence ∈ occurrencesFrom keyword front.getLast? (byteSize front) skip rest) :
    Stands keyword (front ++ rest) occurrence := by
  induction rest generalizing front skip with
  | nil =>
      rw [occurrencesFrom] at member
      cases member
  | cons symbol rest ih =>
      have later {skip : Nat} (member : occurrence ∈ occurrencesFrom keyword (some symbol)
          (byteSize front + symbol.utf8Size) skip rest) :
          Stands keyword (front ++ symbol :: rest) occurrence := by
        have shifted := @ih (front ++ [symbol]) skip
        rw [List.getLast?_concat, byteSize_append, List.append_assoc] at shifted
        exact shifted member
      cases skip with
      | succ skip => exact later member
      | zero =>
          rw [occurrencesFrom] at member
          split at member
          case h_1 after found =>
            rcases List.mem_cons.1 member with rfl | member
            · refine ⟨front, after, ?_, rfl, rfl⟩
              rw [List.append_assoc, append_of_isPrefixOf? found]
            · exact later member
          case h_2 => exact later member

/-- Occurrences are found in a text exactly when the keyword stands there. -/
theorem occurrencesFrom_ne_nil_iff {keyword : List Char} (notEmpty : keyword ≠ [])
    {before : Option Char} {offset : Nat} {text : List Char} :
    occurrencesFrom keyword before offset 0 text ≠ [] ↔ keyword <:+: text := by
  induction text generalizing before offset with
  | nil => simp [occurrencesFrom, notEmpty]
  | cons symbol rest ih =>
      rw [occurrencesFrom, List.infix_cons_iff]
      split
      case h_1 after found =>
        refine iff_of_true (List.cons_ne_nil _ _) (.inl ⟨after, append_of_isPrefixOf? found⟩)
      case h_2 notFound =>
        rw [ih, or_iff_right (Code.isPrefixOf?_eq_none_iff.1 notFound)]

/-- The occurrence that counts is one of those that are found. -/
theorem stands_of_occurrence? {keyword text : List Char} {occurrence : Occurrence}
    (counts : occurrence? keyword text = some occurrence) : Stands keyword text occurrence := by
  have member : occurrence ∈ occurrencesFrom keyword none 0 0 text := by
    rw [occurrence?] at counts
    split at counts
    case h_1 found isFound =>
      obtain rfl := Option.some.inj counts
      exact List.mem_of_find?_eq_some isFound
    case h_2 => exact List.mem_of_head? counts
  exact @stands_of_mem_occurrencesFrom keyword [] text 0 occurrence member

/-- **An occurrence counts wherever the keyword stands in the text.** -/
theorem isSome_occurrence?_iff {keyword : List Char} (notEmpty : keyword ≠ [])
    {text : List Char} : (occurrence? keyword text).isSome ↔ keyword <:+: text := by
  rw [← @occurrencesFrom_ne_nil_iff keyword notEmpty none 0, occurrence?]
  split
  case h_1 found isFound =>
    exact iff_of_true rfl (List.ne_nil_of_mem (List.mem_of_find?_eq_some isFound))
  case h_2 => rw [List.isSome_head?]

end Detection

end Inquiry
