import Inquiry.Json.Reader
import Inquiry.Json.Writer
import Inquiry.Text.Search
import Mathlib.Data.List.TakeWhile

/-!
# JSON texts

The grammar of JSON, stated over lists of characters and without a reader.  A
text is a value, an object, an item with the blanks around it, a member with the
blanks in and around it, or a list of items or members between commas
(`Spells`).

The reader takes nothing else: what it consumes for a value is a value of the
grammar behind blanks, and the texts it stops at are the ones of the grammar.
The three functions of the reader call one another with fewer steps, so one
induction on the steps proves it of all three (`Written.takesPhrases`).
Strings with half a surrogate pair and numbers that are too large belong to the
grammar; they are faults only when a value is asked for.
-/

set_option autoImplicit false

namespace Inquiry

namespace JsonText

/-! ## Parts without structure -/

/-- Blanks between the parts of a text. -/
def IsGap (text : List Char) : Prop := ∀ symbol ∈ text, Written.isSpace symbol = true

/-- A numeral: one or more decimal digits. -/
def IsNumeral (text : List Char) : Prop := text ≠ [] ∧ ∀ symbol ∈ text, symbol.isDigit = true

/-- The digits in front of a point: no zero stands in front of others. -/
inductive IsWhole : List Char → Prop where
  | zero : IsWhole ['0']
  | digits {digits : List Char} : IsNumeral digits → digits.head? ≠ some '0' → IsWhole digits

/-- The fraction of a number, if there is one. -/
inductive IsFraction : List Char → Prop where
  | none : IsFraction []
  | point {digits : List Char} : IsNumeral digits → IsFraction ('.' :: digits)

/-- The exponent of a number, if there is one. -/
inductive IsExponent : List Char → Prop where
  | none : IsExponent []
  | power {mark : Char} {sign digits : List Char} : mark ∈ ['e', 'E'] →
      sign ∈ [[], ['+'], ['-']] → IsNumeral digits → IsExponent (mark :: (sign ++ digits))

/-- A number: a minus sign if it is negative, digits, a fraction and an exponent. -/
inductive IsNumber : List Char → Prop where
  | parts {sign whole fraction exponent : List Char} : sign ∈ [[], ['-']] → IsWhole whole →
      IsFraction fraction → IsExponent exponent →
        IsNumber (sign ++ (whole ++ (fraction ++ exponent)))

/-- A hexadecimal digit. -/
def IsHexDigit (symbol : Char) : Prop :=
  symbol.isDigit = true ∨ ('a' ≤ symbol ∧ symbol ≤ 'f') ∨ ('A' ≤ symbol ∧ symbol ≤ 'F')

/-- What stands between the quotes of a string. -/
inductive IsStringBody : List Char → Prop where
  | nil : IsStringBody []
  | symbol {symbol : Char} {rest : List Char} : symbol ≠ '"' → symbol ≠ '\\' →
      0x20 ≤ symbol.toNat → IsStringBody rest → IsStringBody (symbol :: rest)
  | escaped {letter : Char} {rest : List Char} :
      letter ∈ ['"', '\\', '/', 'b', 'f', 'n', 'r', 't'] → IsStringBody rest →
        IsStringBody ('\\' :: letter :: rest)
  | code {digits rest : List Char} : digits.length = 4 → (∀ digit ∈ digits, IsHexDigit digit) →
      IsStringBody rest → IsStringBody ('\\' :: 'u' :: (digits ++ rest))

/-! ## The grammar -/

/-- The kinds of phrase that the grammar is about. -/
inductive Phrase where
  | value
  | object
  /-- A value and the blanks around it. -/
  | item
  | items
  /-- A name and its value, and the blanks in and around them. -/
  | member
  | members
deriving DecidableEq

/-- **The JSON grammar**: a text is a phrase of this kind. -/
inductive Spells : Phrase → List Char → Prop where
  | word {word : String} : word ∈ ["null", "true", "false"] → Spells .value word.toList
  | number {text : List Char} : IsNumber text → Spells .value text
  | string {body : List Char} : IsStringBody body → Spells .value ('"' :: (body ++ ['"']))
  | emptyArray {gap : List Char} : IsGap gap → Spells .value ('[' :: (gap ++ [']']))
  | array {body : List Char} : Spells .items body → Spells .value ('[' :: (body ++ [']']))
  | ofObject {text : List Char} : Spells .object text → Spells .value text
  | emptyObject {gap : List Char} : IsGap gap → Spells .object (Json.braces gap)
  | object {body : List Char} : Spells .members body → Spells .object (Json.braces body)
  | item {before text after : List Char} : IsGap before → Spells .value text → IsGap after →
      Spells .item (before ++ (text ++ after))
  | lastItem {text : List Char} : Spells .item text → Spells .items text
  | nextItem {text rest : List Char} : Spells .item text → Spells .items rest →
      Spells .items (text ++ ',' :: rest)
  | member {before name between text : List Char} : IsGap before → IsStringBody name →
      IsGap between → Spells .item text →
        Spells .member (before ++ '"' :: (name ++ '"' :: (between ++ ':' :: text)))
  | lastMember {text : List Char} : Spells .member text → Spells .members text
  | nextMember {text rest : List Char} : Spells .member text → Spells .members rest →
      Spells .members (text ++ ',' :: rest)

end JsonText

namespace Written

open JsonText

/-! ## What is read without structure -/

theorem exists_gap (text : List Char) : ∃ gap, IsGap gap ∧ text = gap ++ skipSpace text :=
  ⟨text.takeWhile isSpace, fun _ member => List.mem_takeWhile_imp member,
    List.takeWhile_append_dropWhile.symm⟩

theorem isNumeral_takeWhile {text : List Char}
    (notEmpty : (text.takeWhile Char.isDigit).isEmpty = false) :
    IsNumeral (text.takeWhile Char.isDigit) :=
  ⟨List.isEmpty_eq_false_iff.1 notEmpty, fun _ member => List.mem_takeWhile_imp member⟩

theorem isFraction_of_readFraction {text rest : List Char} {digits : Option (List Char)}
    (found : readFraction text = some (digits, rest)) :
    ∃ fraction, IsFraction fraction ∧ text = fraction ++ rest := by
  unfold readFraction takeDigits at found
  split at found
  case h_1 after =>
    dsimp only at found
    split at found
    · cases found
    case isFalse notEmpty =>
      cases found
      exact ⟨_, .point (isNumeral_takeWhile (Bool.eq_false_iff.2 notEmpty)),
        congrArg _ List.takeWhile_append_dropWhile.symm⟩
  case h_2 =>
    cases found
    exact ⟨[], .none, rfl⟩

theorem isNumeral_of_readExponentDigits {negative : Bool} {text rest : List Char}
    {value : Option Int} (found : readExponentDigits negative text = some (value, rest)) :
    ∃ digits, IsNumeral digits ∧ text = digits ++ rest := by
  unfold readExponentDigits takeDigits at found
  dsimp only at found
  split at found
  · cases found
  case isFalse notEmpty =>
    cases found
    exact ⟨_, isNumeral_takeWhile (Bool.eq_false_iff.2 notEmpty),
      List.takeWhile_append_dropWhile.symm⟩

theorem isExponent_of_readExponentDigits {negative : Bool} {mark : Char}
    {sign after rest : List Char} {value : Option Int} (isMark : mark ∈ ['e', 'E'])
    (isSign : sign ∈ [[], ['+'], ['-']])
    (found : readExponentDigits negative after = some (value, rest)) :
    ∃ exponent, IsExponent exponent ∧ mark :: (sign ++ after) = exponent ++ rest := by
  obtain ⟨digits, isNumeral, rfl⟩ := isNumeral_of_readExponentDigits found
  exact ⟨_, .power isMark isSign isNumeral, by simp⟩

theorem isExponent_of_readExponent {text rest : List Char} {value : Option Int}
    (found : readExponent text = some (value, rest)) :
    ∃ exponent, IsExponent exponent ∧ text = exponent ++ rest := by
  unfold readExponent at found
  split at found
  case h_1 | h_2 =>
    dsimp only at found
    split at found
    · exact isExponent_of_readExponentDigits (by simp) (by simp : ['+'] ∈ _) found
    · exact isExponent_of_readExponentDigits (by simp) (by simp : ['-'] ∈ _) found
    · exact isExponent_of_readExponentDigits (by simp) (by simp : [] ∈ _) found
  case h_3 =>
    cases found
    exact ⟨[], .none, rfl⟩

/-- Digits that do not begin with a zero, or that are one zero, are a whole number. -/
theorem isWhole_of_isNumeral {digits : List Char} (isNumeral : IsNumeral digits)
    (noLeadingZero : ¬ (digits.head? = some '0' ∧ 1 < digits.length)) : IsWhole digits := by
  by_cases zero : digits.head? = some '0'
  · match digits with
    | [] => cases zero
    | [_] =>
        cases zero
        exact .zero
    | _ :: _ :: _ => exact absurd ⟨zero, by simp⟩ noLeadingZero
  · exact .digits isNumeral zero

theorem isNumber_of_readNumber {text rest : List Char} {value : Option Number}
    (found : readNumber text = some (value, rest)) :
    ∃ number, IsNumber number ∧ text = number ++ rest := by
  unfold readNumber takeDigits at found
  split at found
  case h_1 negative unsigned signRead =>
    obtain ⟨sign, isSign, rfl⟩ : ∃ sign ∈ [[], ['-']], text = sign ++ unsigned := by
      split at signRead
      all_goals cases signRead
      · exact ⟨['-'], by simp, rfl⟩
      · exact ⟨[], by simp, rfl⟩
    dsimp only at found
    split at found
    · cases found
    case isFalse fits =>
      simp only [Bool.or_eq_true, Bool.and_eq_true, decide_eq_true_eq, not_or] at fits
      obtain ⟨⟨back, afterFraction⟩, fractionRead, found⟩ := Option.bind_eq_some_iff.1 found
      obtain ⟨⟨power, afterExponent⟩, exponentRead, found⟩ := Option.bind_eq_some_iff.1 found
      obtain ⟨fraction, isFraction, fractionSplit⟩ := isFraction_of_readFraction fractionRead
      obtain ⟨exponent, isExponent, exponentSplit⟩ := isExponent_of_readExponent exponentRead
      cases found
      have isWhole := isWhole_of_isNumeral
        (isNumeral_takeWhile (Bool.eq_false_iff.2 fits.1)) fits.2
      refine ⟨_, .parts isSign isWhole isFraction isExponent, ?_⟩
      rw [List.append_assoc, List.append_assoc, List.append_assoc, ← exponentSplit,
        ← fractionSplit, List.takeWhile_append_dropWhile]

/-! ## Strings -/

theorem isHexDigit_of_hexValue? {symbol : Char} {value : Nat}
    (found : hexValue? symbol = some value) : IsHexDigit symbol := by
  unfold hexValue? at found
  grind [IsHexDigit]

/-- What is read as a code unit is four hexadecimal digits. -/
theorem areHexDigits_of_readHex {text rest : List Char} {code : Nat}
    (found : readHex text = some (code, rest)) :
    ∃ digits, digits.length = 4 ∧ (∀ digit ∈ digits, IsHexDigit digit) ∧ text = digits ++ rest := by
  unfold readHex at found
  split at found
  case h_1 a b c d after =>
    obtain ⟨_, first, found⟩ := Option.bind_eq_some_iff.1 found
    obtain ⟨_, second, found⟩ := Option.bind_eq_some_iff.1 found
    obtain ⟨_, third, found⟩ := Option.bind_eq_some_iff.1 found
    obtain ⟨_, fourth, found⟩ := Option.bind_eq_some_iff.1 found
    cases found
    refine ⟨[a, b, c, d], rfl, ?_, rfl⟩
    simp only [List.forall_mem_cons]
    exact ⟨isHexDigit_of_hexValue? first, isHexDigit_of_hexValue? second,
      isHexDigit_of_hexValue? third, isHexDigit_of_hexValue? fourth, by simp⟩
  case h_2 => cases found

theorem mem_of_escaped? {letter value : Char} (found : escaped? letter = some value) :
    letter ∈ ['"', '\\', '/', 'b', 'f', 'n', 'r', 't'] := by
  unfold escaped? at found
  split at found <;> simp at found ⊢

theorem isStringBody_of_readParts {steps : Nat} {text rest : List Char} {parts : List StringPart}
    (found : readParts steps text = some (parts, rest)) :
    ∃ body, IsStringBody body ∧ text = body ++ '"' :: rest := by
  induction steps generalizing text parts with
  | zero => cases found
  | succ steps ih =>
      match text with
      | [] => cases found
      | symbol :: text =>
          unfold readParts at found
          split at found
          case isTrue isQuote =>
            cases found
            exact ⟨[], .nil, by rw [isQuote]; rfl⟩
          case isFalse notQuote =>
            split at found
            case isTrue isBackslash =>
              subst isBackslash
              split at found
              case h_1 digits =>
                obtain ⟨⟨code, later⟩, codeRead, found⟩ := Option.bind_eq_some_iff.1 found
                obtain ⟨⟨parts, after⟩, partsRead, found⟩ := Option.bind_eq_some_iff.1 found
                cases found
                obtain ⟨digits, four, areHexDigits, rfl⟩ := areHexDigits_of_readHex codeRead
                obtain ⟨body, isBody, rfl⟩ := ih partsRead
                exact ⟨_, .code four areHexDigits isBody, by simp⟩
              case h_2 letter later _ =>
                obtain ⟨value, isEscape, found⟩ := Option.bind_eq_some_iff.1 found
                obtain ⟨⟨parts, after⟩, partsRead, found⟩ := Option.bind_eq_some_iff.1 found
                cases found
                obtain ⟨body, isBody, rfl⟩ := ih partsRead
                exact ⟨_, .escaped (mem_of_escaped? isEscape) isBody, rfl⟩
              case h_3 => cases found
            case isFalse notBackslash =>
              split at found
              · cases found
              case isFalse isPrinted =>
                obtain ⟨⟨parts, after⟩, partsRead, found⟩ := Option.bind_eq_some_iff.1 found
                cases found
                obtain ⟨body, isBody, rfl⟩ := ih partsRead
                exact ⟨symbol :: body, .symbol notQuote notBackslash (Nat.le_of_not_lt isPrinted)
                  isBody, rfl⟩

theorem isStringBody_of_readString {text rest : List Char} {value : Option String}
    (found : readString text = some (value, rest)) :
    ∃ body, IsStringBody body ∧ text = body ++ '"' :: rest := by
  obtain ⟨⟨parts, after⟩, partsRead, settled⟩ := Option.map_eq_some_iff.1 found
  cases settled
  exact isStringBody_of_readParts partsRead

/-! ## Values -/

/-- The phrase that a written value comes from. -/
def phraseOf : Written → Phrase
  | .object _ => .object
  | _ => .value

theorem spells_value_of_phraseOf {value : Written} {text : List Char}
    (spells : Spells (phraseOf value) text) : Spells .value text := by
  cases value
  case object => exact .ofObject spells
  all_goals exact spells

/-- What the reader takes in so many steps is spelled by the grammar. -/
structure TakesPhrases (steps : Nat) : Prop where
  value {text rest : List Char} {value : Written} :
    readValue steps text = some (value, rest) →
      ∃ gap inner, IsGap gap ∧ Spells (phraseOf value) inner ∧ text = gap ++ (inner ++ rest)
  items {text rest : List Char} {items : List Written} :
    readItems steps text = some (items, rest) →
      ∃ body, Spells .items body ∧ text = body ++ ']' :: rest
  members {text rest : List Char} {members : List (Option String × Written)} :
    readMembers steps text = some (members, rest) →
      ∃ body, Spells .members body ∧ text = body ++ Char.ofNat 0x7d :: rest

/-- A value that is read, with the blanks on both sides of it. -/
theorem TakesPhrases.item {steps : Nat} (takes : TakesPhrases steps) {text rest : List Char}
    {value : Written} (found : readValue steps text = some (value, rest)) :
    ∃ item, Spells .item item ∧ text = item ++ skipSpace rest := by
  obtain ⟨gap, inner, isGap, spells, rfl⟩ := takes.value found
  obtain ⟨after, isAfter, split⟩ := exists_gap rest
  refine ⟨_, .item isGap (spells_value_of_phraseOf spells) isAfter, ?_⟩
  rw [List.append_assoc, List.append_assoc, ← split]

theorem TakesPhrases.items_succ {steps : Nat} (takes : TakesPhrases steps)
    {text rest : List Char} {items : List Written}
    (found : readItems (steps + 1) text = some (items, rest)) :
    ∃ body, Spells .items body ∧ text = body ++ ']' :: rest := by
  unfold readItems at found
  split at found
  · cases found
  case h_2 value after valueRead =>
    obtain ⟨item, spellsItem, rfl⟩ := takes.item valueRead
    split at found
    case h_1 later skipped =>
      obtain ⟨⟨others, end'⟩, itemsRead, settled⟩ := Option.map_eq_some_iff.1 found
      cases settled
      obtain ⟨body, spellsItems, rfl⟩ := takes.items itemsRead
      exact ⟨_, .nextItem spellsItem spellsItems, by rw [skipped]; simp⟩
    case h_2 later skipped =>
      cases found
      exact ⟨item, .lastItem spellsItem, by rw [skipped]⟩
    · cases found

theorem eq_of_toNat {symbol : Char} {code : Nat} (isCode : symbol.toNat = code) :
    symbol = Char.ofNat code := by
  rw [← isCode, Char.ofNat_toNat]

theorem TakesPhrases.members_succ {steps : Nat} (takes : TakesPhrases steps)
    {text rest : List Char} {members : List (Option String × Written)}
    (found : readMembers (steps + 1) text = some (members, rest)) :
    ∃ body, Spells .members body ∧ text = body ++ Char.ofNat 0x7d :: rest := by
  obtain ⟨before, isBefore, textSplit⟩ := exists_gap text
  unfold readMembers at found
  split at found
  case h_2 => cases found
  case h_1 afterQuote skippedQuote =>
    rw [skippedQuote] at textSplit
    subst textSplit
    split at found
    · cases found
    case h_2 name afterName nameRead =>
      obtain ⟨nameBody, isName, rfl⟩ := isStringBody_of_readString nameRead
      obtain ⟨between, isBetween, nameSplit⟩ := exists_gap afterName
      split at found
      case h_2 => cases found
      case h_1 afterColon skippedColon =>
        rw [skippedColon] at nameSplit
        subst nameSplit
        split at found
        · cases found
        case h_2 value afterValue valueRead =>
          obtain ⟨item, spellsItem, rfl⟩ := takes.item valueRead
          have spellsMember := Spells.member isBefore isName isBetween spellsItem
          split at found
          · cases found
          case h_2 next after skipped =>
            rw [skipped]
            split at found
            case isTrue isComma =>
              obtain ⟨⟨others, later⟩, membersRead, settled⟩ := Option.map_eq_some_iff.1 found
              cases settled
              obtain ⟨body, spellsMembers, rfl⟩ := takes.members membersRead
              exact ⟨_, .nextMember spellsMember spellsMembers, by simp [isComma]⟩
            case isFalse notComma =>
              split at found
              case isTrue isClosing =>
                cases found
                exact ⟨_, .lastMember spellsMember, by simp [eq_of_toNat isClosing]⟩
              · cases found

/-- A word of the grammar that is read off a text. -/
theorem spells_word {word : String} (isWord : word ∈ ["null", "true", "false"])
    {text rest : List Char} (found : word.toList.isPrefixOf? text = some rest) :
    ∃ inner, Spells .value inner ∧ text = inner ++ rest :=
  ⟨_, .word isWord, (Text.append_of_isPrefixOf? found).symm⟩

theorem spells_emptyArray {text rest : List Char} (skipped : skipSpace text = ']' :: rest) :
    ∃ inner, Spells .value inner ∧ '[' :: text = inner ++ rest := by
  obtain ⟨gap, isGap, textSplit⟩ := exists_gap text
  rw [skipped] at textSplit
  exact ⟨_, .emptyArray isGap, by simp [textSplit]⟩

theorem TakesPhrases.array {steps : Nat} (takes : TakesPhrases steps) {text rest : List Char}
    {items : List Written} (found : readItems steps text = some (items, rest)) :
    ∃ inner, Spells .value inner ∧ '[' :: text = inner ++ rest := by
  obtain ⟨body, spellsItems, rfl⟩ := takes.items found
  exact ⟨_, .array spellsItems, by simp⟩

theorem spells_emptyObject {text rest : List Char}
    (skipped : skipSpace text = Char.ofNat 0x7d :: rest) :
    ∃ inner, Spells .object inner ∧ Char.ofNat 0x7b :: text = inner ++ rest := by
  obtain ⟨gap, isGap, textSplit⟩ := exists_gap text
  rw [skipped] at textSplit
  exact ⟨_, .emptyObject isGap, by simp [textSplit, Json.braces]⟩

theorem TakesPhrases.object {steps : Nat} (takes : TakesPhrases steps) {text rest : List Char}
    {members : List (Option String × Written)}
    (found : readMembers steps text = some (members, rest)) :
    ∃ inner, Spells .object inner ∧ Char.ofNat 0x7b :: text = inner ++ rest := by
  obtain ⟨body, spellsMembers, rfl⟩ := takes.members found
  exact ⟨_, .object spellsMembers, by simp [Json.braces]⟩

theorem TakesPhrases.value_succ {steps : Nat} (takes : TakesPhrases steps)
    {text rest : List Char} {value : Written}
    (found : readValue (steps + 1) text = some (value, rest)) :
    ∃ gap inner, IsGap gap ∧ Spells (phraseOf value) inner ∧ text = gap ++ (inner ++ rest) := by
  obtain ⟨gap, isGap, textSplit⟩ := exists_gap text
  suffices ∃ inner, Spells (phraseOf value) inner ∧ skipSpace text = inner ++ rest by
    obtain ⟨inner, spells, split⟩ := this
    exact ⟨gap, inner, isGap, spells, split ▸ textSplit⟩
  unfold readValue at found
  split at found
  · cases found
  case h_2 symbol after skipped =>
    rw [skipped]
    split at found
    case isTrue isQuote =>
      obtain ⟨⟨value, later⟩, stringRead, settled⟩ := Option.map_eq_some_iff.1 found
      cases settled
      obtain ⟨body, isBody, rfl⟩ := isStringBody_of_readString stringRead
      exact ⟨_, .string isBody, by simp [isQuote]⟩
    split at found
    case isTrue isBracket =>
      subst isBracket
      split at found
      case h_1 later skippedBracket =>
        cases found
        exact spells_emptyArray skippedBracket
      case h_2 =>
        obtain ⟨⟨items, later⟩, itemsRead, settled⟩ := Option.map_eq_some_iff.1 found
        cases settled
        exact takes.array itemsRead
    split at found
    case isTrue isBrace =>
      obtain rfl := eq_of_toNat isBrace
      split at found
      · cases found
      case h_2 next later skippedBrace =>
        split at found
        case isTrue isClosing =>
          cases found
          exact spells_emptyObject (eq_of_toNat isClosing ▸ skippedBrace)
        case isFalse =>
          obtain ⟨⟨members, later⟩, membersRead, settled⟩ := Option.map_eq_some_iff.1 found
          cases settled
          exact takes.object membersRead
    -- What is neither in quotes nor in brackets is a word or a number.
    split at found
    case h_1 later isWord =>
      cases found
      exact spells_word (by simp) isWord
    split at found
    case h_1 later isWord =>
      cases found
      exact spells_word (by simp) isWord
    split at found
    case h_1 later isWord =>
      cases found
      exact spells_word (by simp) isWord
    obtain ⟨⟨value, later⟩, numberRead, settled⟩ := Option.map_eq_some_iff.1 found
    cases settled
    obtain ⟨number, isNumber, split⟩ := isNumber_of_readNumber numberRead
    exact ⟨number, .number isNumber, split⟩

/-- What the reader takes is spelled by the grammar, however many steps it has. -/
theorem takesPhrases (steps : Nat) : TakesPhrases steps := by
  induction steps with
  | zero => exact ⟨nofun, nofun, nofun⟩
  | succ steps ih => exact ⟨ih.value_succ, ih.items_succ, ih.members_succ⟩

/-- A text that reads as an object is one, with blanks around it. -/
theorem exists_object_of_read {text : List Char}
    (found : (read text).map phraseOf = some .object) :
    ∃ before object after, IsGap before ∧ Spells .object object ∧ IsGap after ∧
      text = before ++ (object ++ after) := by
  obtain ⟨value, valueRead, isObject⟩ := Option.map_eq_some_iff.1 found
  unfold read at valueRead
  split at valueRead
  case h_1 value' rest found =>
    obtain ⟨before, object, isBefore, spells, rfl⟩ := (takesPhrases _).value found
    obtain ⟨after, isAfter, split⟩ := exists_gap rest
    split at valueRead
    case isTrue isEmpty =>
      cases valueRead
      rw [List.isEmpty_iff.1 isEmpty, List.append_nil] at split
      subst split
      exact ⟨before, object, rest, isBefore, isObject ▸ spells, isAfter, rfl⟩
    · cases valueRead
  · cases valueRead

/-- A text from brace to brace that reads as an object is one. -/
theorem spells_object_of_read {text : List Char} (found : (read text).map phraseOf = some .object)
    (opens : text.head?.all (! isSpace ·) = true)
    (closes : text.getLast?.all (! isSpace ·) = true) :
    Spells .object text := by
  obtain ⟨before, object, after, isBefore, spells, isAfter, rfl⟩ := exists_object_of_read found
  have noBefore : before = [] := by
    cases before with
    | nil => rfl
    | cons symbol rest => simp [isBefore symbol] at opens
  have noAfter : after = [] := by
    rcases List.eq_nil_or_concat after with rfl | ⟨rest, symbol, rfl⟩
    · rfl
    · simp [isAfter symbol] at closes
  rwa [noBefore, noAfter, List.append_nil]

end Written

end Inquiry
