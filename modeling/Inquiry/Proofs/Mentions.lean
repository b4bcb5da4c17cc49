import Inquiry.Code.Reference
import Inquiry.Proofs.Quoting

/-!
# Where mentions stand

Reading a mention off the start of code looks at the character in front of it,
at the mention, and past its end: a bare name goes on as far as it can.
`Mention.StandsBetween` says all of it without reading: what has to hold of
the character in front and of the code after a mention for it to be read there.
The two descriptions agree (`mentionAt?_eq_some_iff`), and
`mentionAt?_eq_none_iff` tells where no mention is read.

So whether a mention is read at a place depends on the code after it only
through its first two characters, and whether none is read through one
question, whether a mark that opens a name is closed later.
-/

set_option autoImplicit false

namespace Inquiry.Code

open Inquiry.Text

/-- Whether a character opens a quoted name. -/
def isMark (symbol : Char) : Bool := symbol = '`' || symbol = '"'

theorem isMark_iff {symbol : Char} : isMark symbol = true ↔ symbol = '`' ∨ symbol = '"' := by
  simp [isMark]

theorem isPrefixOf?_eq_some_iff {word text rest : List Char} :
    word.isPrefixOf? text = some rest ↔ text = word ++ rest := by
  constructor
  · intro found
    exact (append_of_isPrefixOf? found).symm
  · rintro rfl
    induction word with
    | nil => rfl
    | cons symbol word ih =>
        show (if symbol == symbol then word.isPrefixOf? (word ++ rest) else none) = some rest
        rw [if_pos (beq_self_eq_true symbol)]
        exact ih

theorem isPrefixOf?_eq_none_iff {word text : List Char} :
    word.isPrefixOf? text = none ↔ ¬ word <+: text := by
  rw [Option.eq_none_iff_forall_ne_some]
  constructor
  · rintro none ⟨rest, rfl⟩
    exact none rest (isPrefixOf?_eq_some_iff.2 rfl)
  · intro none rest found
    exact none ⟨rest, (isPrefixOf?_eq_some_iff.1 found).symm⟩

/-- A word without a symbol at the start of a text is at the start of what is in front of the
symbol. -/
theorem isPrefix_of_isPrefix_append_cons {symbol : Char} {word front rest : List Char}
    (absent : symbol ∉ word) (begins : word <+: front ++ symbol :: rest) : word <+: front := by
  rcases List.prefix_or_prefix_of_prefix begins (List.prefix_append ..) with within | past
  · exact within
  · obtain ⟨more, rfl⟩ := past
    rw [List.prefix_append_right_inj, List.prefix_cons_iff] at begins
    rcases begins with rfl | ⟨tail, rfl, -⟩
    · exact ⟨[], by simp⟩
    · exact absurd (List.mem_append_right _ (List.mem_cons_self ..)) absent

theorem isPrefixOf?_append_cons {symbol : Char} {word : List Char} (absent : symbol ∉ word)
    (front rest : List Char) : word.isPrefixOf? (front ++ symbol :: rest) =
      (word.isPrefixOf? front).map (· ++ symbol :: rest) := by
  cases found : word.isPrefixOf? front with
  | some after =>
      rw [isPrefixOf?_eq_some_iff] at found
      rw [found, Option.map_some, isPrefixOf?_eq_some_iff, List.append_assoc]
  | none =>
      rw [isPrefixOf?_eq_none_iff] at found
      rw [Option.map_none, isPrefixOf?_eq_none_iff]
      intro begins
      exact found (isPrefix_of_isPrefix_append_cons absent begins)

/-! ## Bare names -/

/-- No bare name goes on into a text. -/
def EndsName (text : List Char) : Prop := ∀ symbol ∈ text.head?, isBareSymbol symbol = false

/-- A text does not begin with two quotes of one kind, as an empty table name would go on. -/
def StartsUnpaired (text : List Char) : Prop :=
  ¬ ['\'', '\''] <+: text ∧ ¬ ['"', '"'] <+: text

/-- A bare name is read up to where it ends. -/
theorem span_of_endsName {name after : List Char}
    (bare : ∀ symbol ∈ name, isBareSymbol symbol = true) (ends : EndsName after) :
    (name ++ after).takeWhile isBareSymbol = name ∧
      (name ++ after).dropWhile isBareSymbol = after := by
  have stops : after.takeWhile isBareSymbol = [] ∧ after.dropWhile isBareSymbol = after := by
    cases after with
    | nil => exact ⟨rfl, rfl⟩
    | cons symbol rest =>
        have fails := ends symbol rfl
        simp [fails]
  constructor
  · rw [List.takeWhile_append_of_pos bare, stops.1, List.append_nil]
  · rw [List.dropWhile_append_of_pos bare, stops.2]

theorem bareMention_of_startsUnpaired {rest : List Char} (unpaired : StartsUnpaired rest) :
    bareMention rest = (.bare (rest.takeWhile isBareSymbol), rest.dropWhile isBareSymbol) := by
  unfold bareMention
  split
  · exact absurd ⟨_, rfl⟩ unpaired.1
  · exact absurd ⟨_, rfl⟩ unpaired.2
  · rfl

theorem startsUnpaired_of_bare {symbol : Char} (bare : isBareSymbol symbol = true)
    (rest : List Char) : StartsUnpaired (symbol :: rest) := by
  constructor
  · rintro ⟨after, same⟩
    obtain ⟨rfl, -⟩ := List.cons.inj same
    revert bare
    decide
  · rintro ⟨after, same⟩
    obtain ⟨rfl, -⟩ := List.cons.inj same
    revert bare
    decide

/-- What is read after the mark of tables outside quotes. -/
theorem bareMention_eq_iff {rest after : List Char} {mention : Mention} :
    bareMention rest = (mention, after) ↔
      (∃ quote, (quote = '\'' ∨ quote = '"') ∧ mention = .emptyLiteral quote ∧
        rest = quote :: quote :: after) ∨
      ∃ name, mention = .bare name ∧ rest = name ++ after ∧
        (∀ symbol ∈ name, isBareSymbol symbol = true) ∧ EndsName after ∧
        (name = [] → StartsUnpaired after) := by
  constructor
  · intro read
    unfold bareMention at read
    split at read
    case h_1 tail =>
      cases read
      exact .inl ⟨'\'', .inl rfl, rfl, rfl⟩
    case h_2 tail =>
      cases read
      exact .inl ⟨'"', .inr rfl, rfl, rfl⟩
    case h_3 noSingle noDouble =>
      cases read
      refine .inr ⟨_, rfl, List.takeWhile_append_dropWhile.symm, ?_, ?_, ?_⟩
      · intro symbol member
        exact List.all_eq_true.1 List.all_takeWhile symbol member
      · intro symbol isHead
        have fails := List.head?_dropWhile_not isBareSymbol rest
        rw [isHead] at fails
        simpa using fails
      · intro noName
        have same := List.takeWhile_append_dropWhile (p := isBareSymbol) (l := rest)
        rw [noName, List.nil_append] at same
        rw [same]
        constructor
        · rintro ⟨tail, rfl⟩
          exact noSingle tail rfl
        · rintro ⟨tail, rfl⟩
          exact noDouble tail rfl
  · rintro (⟨quote, rfl | rfl, rfl, rfl⟩ | ⟨name, rfl, rfl, bare, ends, unpaired⟩)
    · rfl
    · rfl
    · obtain ⟨taken, dropped⟩ := span_of_endsName bare ends
      rw [bareMention_of_startsUnpaired, taken, dropped]
      cases name with
      | nil => exact unpaired rfl
      | cons symbol name => exact startsUnpaired_of_bare (bare symbol (List.mem_cons_self ..)) _

/-! ## Mentions -/

/-- What holds around a mention that is read: of the character in front, of the mention, and of
the code after it. -/
def Mention.StandsBetween (before : Option Char) (after : List Char) : Mention → Prop
  | .backtick identifier => '`' ∉ identifier
  | .doubleQuote identifier => '"' ∉ identifier
  | .bare identifier =>
      startsWordAfter before = true ∧ (∀ symbol ∈ identifier, isBareSymbol symbol = true) ∧
        EndsName after ∧ (identifier = [] → StartsUnpaired after)
  | .emptyLiteral quote => startsWordAfter before = true ∧ (quote = '\'' ∨ quote = '"')

/-- The name after an opening mark and the code after the closing one. -/
def quotedName? (mark : Char) (rest : List Char) : Option (List Char × List Char) :=
  (tableMark.isPrefixOf? rest).bind (closedBody? mark)

theorem quotedName?_eq_some_iff {mark : Char} {rest identifier after : List Char} :
    quotedName? mark rest = some (identifier, after) ↔
      rest = tableMark ++ identifier ++ mark :: after ∧ mark ∉ identifier := by
  constructor
  · intro found
    obtain ⟨inner, marked, closed⟩ := Option.bind_eq_some_iff.1 found
    rw [isPrefixOf?_eq_some_iff.1 marked, ← closedBody?_append closed]
    exact ⟨by simp, notMem_of_closedBody? closed⟩
  · rintro ⟨rfl, absent⟩
    refine Option.bind_eq_some_iff.2 ⟨identifier ++ mark :: after, ?_, ?_⟩
    · exact isPrefixOf?_eq_some_iff.2 (List.append_assoc ..)
    · exact closedBody?_append_cons absent after

theorem quotedName?_eq_none_iff {mark : Char} {rest : List Char} (isMark : isMark mark = true) :
    quotedName? mark rest = none ↔ (tableMark <+: rest → mark ∉ rest) := by
  have notInTable : mark ∉ tableMark := by
    rcases isMark_iff.1 isMark with rfl | rfl <;> decide
  cases marked : tableMark.isPrefixOf? rest with
  | none =>
      simp [quotedName?, marked, isPrefixOf?_eq_none_iff.1 marked]
  | some inner =>
      obtain rfl := isPrefixOf?_eq_some_iff.1 marked
      rw [quotedName?, marked, Option.bind_some, closedBody?_eq_none_iff]
      simp [notInTable]

theorem mentionAt?_backtick (before : Option Char) (rest : List Char) :
    mentionAt? before ('`' :: rest) =
      (quotedName? '`' rest).map fun found => (.backtick found.1, found.2) := by
  rw [mentionAt?, if_pos rfl, quotedName?]
  cases tableMark.isPrefixOf? rest with
  | none => rfl
  | some inner => cases closed : closedBody? '`' inner <;> simp [closed]

theorem mentionAt?_doubleQuote (before : Option Char) (rest : List Char) :
    mentionAt? before ('"' :: rest) =
      (quotedName? '"' rest).map fun found => (.doubleQuote found.1, found.2) := by
  rw [mentionAt?, if_neg (by decide), if_pos rfl, quotedName?]
  cases tableMark.isPrefixOf? rest with
  | none => rfl
  | some inner => cases closed : closedBody? '"' inner <;> simp [closed]

/-- From any other character on, a name without quotes around it is read. -/
theorem mentionAt?_of_not_isMark {symbol : Char} (notMark : isMark symbol = false)
    (before : Option Char) (rest : List Char) :
    mentionAt? before (symbol :: rest) =
      if startsWordAfter before then (tableMark.isPrefixOf? (symbol :: rest)).map bareMention
      else none := by
  simp only [isMark, Bool.or_eq_false_iff, decide_eq_false_iff_not] at notMark
  rw [mentionAt?, if_neg notMark.1, if_neg notMark.2]

/-- After the mark of tables, at the start of a word, a name without quotes around it is read. -/
theorem mentionAt?_tableMark {before : Option Char} (starts : startsWordAfter before = true)
    (rest : List Char) : mentionAt? before (tableMark ++ rest) = some (bareMention rest) := by
  have marked : tableMark.isPrefixOf? ('t' :: 'a' :: 'b' :: rest) = some rest :=
    isPrefixOf?_eq_some_iff.2 rfl
  show mentionAt? before ('t' :: 'a' :: 'b' :: rest) = some (bareMention rest)
  rw [mentionAt?_of_not_isMark (by decide), if_pos starts, marked, Option.map_some]

/-- **A mention is read where it stands**, and nowhere else. -/
theorem mentionAt?_eq_some_iff {before : Option Char} {text after : List Char}
    {mention : Mention} :
    mentionAt? before text = some (mention, after) ↔
      text = mention.characters ++ after ∧ mention.StandsBetween before after := by
  constructor
  · intro found
    refine ⟨(mentionAt?_append found).symm, ?_⟩
    cases text with
    | nil => cases found
    | cons symbol rest =>
        by_cases isTick : symbol = '`'
        · subst isTick
          rw [mentionAt?_backtick] at found
          obtain ⟨⟨identifier, rest'⟩, read, same⟩ := Option.map_eq_some_iff.1 found
          cases same
          exact (quotedName?_eq_some_iff.1 read).2
        by_cases isDouble : symbol = '"'
        · subst isDouble
          rw [mentionAt?_doubleQuote] at found
          obtain ⟨⟨identifier, rest'⟩, read, same⟩ := Option.map_eq_some_iff.1 found
          cases same
          exact (quotedName?_eq_some_iff.1 read).2
        rw [mentionAt?_of_not_isMark (by simp [isMark, isTick, isDouble])] at found
        split at found
        case isFalse => cases found
        case isTrue starts =>
          obtain ⟨inner, -, read⟩ := Option.map_eq_some_iff.1 found
          rcases bareMention_eq_iff.1 read with ⟨quote, isQuote, rfl, -⟩ |
            ⟨name, rfl, -, bare, ends, unpaired⟩
          · exact ⟨starts, isQuote⟩
          · exact ⟨starts, bare, ends, unpaired⟩
  · rintro ⟨rfl, stands⟩
    cases mention with
    | backtick identifier =>
        have read := mentionAt?_backtick before (tableMark ++ identifier ++ '`' :: after)
        rw [quotedName?_eq_some_iff.2 ⟨rfl, stands⟩] at read
        rw [Mention.characters, List.append_assoc]
        exact read
    | doubleQuote identifier =>
        have read := mentionAt?_doubleQuote before (tableMark ++ identifier ++ '"' :: after)
        rw [quotedName?_eq_some_iff.2 ⟨rfl, stands⟩] at read
        rw [Mention.characters, List.append_assoc]
        exact read
    | bare identifier =>
        obtain ⟨starts, bare, ends, unpaired⟩ := stands
        rw [Mention.characters, List.append_assoc, mentionAt?_tableMark starts,
          bareMention_eq_iff.2 (.inr ⟨identifier, rfl, rfl, bare, ends, unpaired⟩)]
    | emptyLiteral quote =>
        obtain ⟨starts, isQuote⟩ := stands
        rw [Mention.characters, List.append_assoc, mentionAt?_tableMark starts]
        exact congrArg some (bareMention_eq_iff.2 (.inl ⟨quote, isQuote, rfl, rfl⟩))

/-- **No mention is read** at a mark that opens no quoted name, and at any other character where
the mark of tables does not stand at the start of a word. -/
theorem mentionAt?_eq_none_iff {before : Option Char} {symbol : Char} {rest : List Char} :
    mentionAt? before (symbol :: rest) = none ↔
      if isMark symbol then tableMark <+: rest → symbol ∉ rest
      else startsWordAfter before = true → ¬ tableMark <+: symbol :: rest := by
  split
  case isTrue isMark =>
    rcases isMark_iff.1 isMark with rfl | rfl
    · rw [mentionAt?_backtick, Option.map_eq_none_iff, quotedName?_eq_none_iff isMark]
    · rw [mentionAt?_doubleQuote, Option.map_eq_none_iff, quotedName?_eq_none_iff isMark]
  case isFalse notMark =>
    rw [mentionAt?_of_not_isMark (Bool.eq_false_iff.2 notMark)]
    split
    case isTrue starts =>
      rw [Option.map_eq_none_iff, isPrefixOf?_eq_none_iff]
      exact ⟨fun missing _ => missing, fun missing => missing starts⟩
    case isFalse within =>
      exact ⟨fun _ starts => absurd starts within, fun _ => rfl⟩

end Inquiry.Code
