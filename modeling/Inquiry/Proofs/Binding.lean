import Inquiry.Store.Selection
import Mathlib.Data.List.Forall2

/-!
# Values bound to placeholders

The text of a selection is handed to the record store together with a list of
values.  The store reads the text from left to right and binds the next value
of the list to each question mark outside quotes, which is called a placeholder
(`bindFrom`).  A question mark inside a quoted name is a part of the name.

So a value can be bound at the wrong place, and there can be too few values or
too many.  For selections neither happens.  `Selection.bound` says where the
values belong, clause by clause, and binding the parameters to the text gives
just that (`Selection.binds_text`), whatever question marks and quotes the names
of the table and its columns hold.
-/

set_option autoImplicit false

namespace Inquiry

/-! ## Binding -/

/-- The quote that is open after one more character of a text. -/
def quoteAfter (opened : Option Char) (symbol : Char) : Option Char :=
  match opened with
  | none => if symbol = '"' ∨ symbol = '\'' ∨ symbol = '`' then some symbol else none
  | some mark => if symbol = mark then none else some mark

/-- A text in which values stand among the characters. -/
abbrev BoundText := List (Char ⊕ SqlValue)

/-- A text without values. -/
def BoundText.plain (text : List Char) : BoundText := text.map .inl

/-- How many placeholders there are in a text, a quote being open before it. -/
def placeholdersFrom : (opened : Option Char) → List Char → Nat
  | _, [] => 0
  | opened, symbol :: rest =>
      (if symbol = '?' ∧ opened = none then 1 else 0) +
        placeholdersFrom (quoteAfter opened symbol) rest

/-- How many placeholders there are in a text. -/
def placeholders (text : String) : Nat := placeholdersFrom none text.toList

/-- A text with its placeholders replaced by values, one after the other; none if there are more
or fewer values than placeholders. -/
def bindFrom (opened : Option Char) (text : List Char) (values : List SqlValue) :
    Option BoundText :=
  match text with
  | [] => if values.isEmpty then some [] else none
  | symbol :: rest =>
      if symbol = '?' ∧ opened = none then
        match values with
        | [] => none
        | value :: values => (bindFrom none rest values).map (.inr value :: ·)
      else (bindFrom (quoteAfter opened symbol) rest values).map (.inl symbol :: ·)

/-- A placeholder is replaced by the first value, and any other character stays. -/
theorem bindFrom_cons (opened : Option Char) (symbol : Char) (rest : List Char)
    (values : List SqlValue) :
    bindFrom opened (symbol :: rest) values =
      if symbol = '?' ∧ opened = none then
        match values with
        | [] => none
        | value :: values => (bindFrom none rest values).map (.inr value :: ·)
      else (bindFrom (quoteAfter opened symbol) rest values).map (.inl symbol :: ·) :=
  rfl

/-- What the record store makes of a text and the values that come with it. -/
def bindAll (text : String) (values : List SqlValue) : Option BoundText :=
  bindFrom none text.toList values

/-- Where values are bound, there are as many as placeholders. -/
theorem placeholdersFrom_of_bindFrom {opened : Option Char} {text : List Char}
    {values : List SqlValue} {bound : BoundText}
    (binds : bindFrom opened text values = some bound) :
    placeholdersFrom opened text = values.length := by
  induction text generalizing opened values bound with
  | nil =>
      cases values with
      | nil => rfl
      | cons value values => cases binds
  | cons symbol rest ih =>
      rw [bindFrom_cons] at binds
      rw [placeholdersFrom]
      split at binds
      case isTrue isPlaceholder =>
        obtain ⟨rfl, rfl⟩ := isPlaceholder
        cases values with
        | nil => cases binds
        | cons value values =>
            obtain ⟨tail, ofRest, -⟩ := Option.map_eq_some_iff.1 binds
            rw [if_pos ⟨rfl, rfl⟩, show quoteAfter none '?' = none from rfl, ih ofRest,
              List.length_cons, Nat.add_comm]
      case isFalse notPlaceholder =>
        obtain ⟨tail, ofRest, -⟩ := Option.map_eq_some_iff.1 binds
        rw [if_neg notPlaceholder, ih ofRest, Nat.zero_add]

/-- The values for a text of two parts are those for the first part and those for the second. -/
theorem bindFrom_append {opened : Option Char} {first : List Char} {values : List SqlValue}
    {bound : BoundText} (binds : bindFrom opened first values = some bound) (second : List Char)
    (others : List SqlValue) :
    bindFrom opened (first ++ second) (values ++ others) =
      (bindFrom (first.foldl quoteAfter opened) second others).map (bound ++ ·) := by
  induction first generalizing opened values bound with
  | nil =>
      cases values with
      | nil =>
          cases binds
          simp
      | cons value values => cases binds
  | cons symbol rest ih =>
      rw [bindFrom_cons] at binds
      rw [List.cons_append, bindFrom_cons, List.foldl_cons]
      split at binds
      case isTrue isPlaceholder =>
        obtain ⟨rfl, rfl⟩ := isPlaceholder
        cases values with
        | nil => cases binds
        | cons value values =>
            obtain ⟨tail, ofRest, rfl⟩ := Option.map_eq_some_iff.1 binds
            rw [if_pos ⟨rfl, rfl⟩, List.cons_append]
            simp only [ih ofRest, Option.map_map, show quoteAfter none '?' = none from rfl]
            rfl
      case isFalse notPlaceholder =>
        obtain ⟨tail, ofRest, rfl⟩ := Option.map_eq_some_iff.1 binds
        rw [if_neg notPlaceholder, ih ofRest, Option.map_map]
        rfl

/-! ## Texts that take values -/

/-- Whether a character is neither a quote nor a placeholder. -/
def isPlainSymbol (symbol : Char) : Bool :=
  symbol ≠ '?' && symbol ≠ '"' && symbol ≠ '\'' && symbol ≠ '`'

theorem isPlainSymbol_iff {symbol : Char} :
    isPlainSymbol symbol = true ↔
      symbol ≠ '?' ∧ symbol ≠ '"' ∧ symbol ≠ '\'' ∧ symbol ≠ '`' := by
  simp [isPlainSymbol, and_assoc]

/-- A text takes values: it closes every quote that it opens, and binding the values to its
placeholders gives the bound text. -/
def Binds (text : List Char) (values : List SqlValue) (bound : BoundText) : Prop :=
  bindFrom none text values = some bound ∧ text.foldl quoteAfter none = none

namespace Binds

theorem nil : Binds [] [] [] := ⟨rfl, rfl⟩

theorem append {first second : List Char} {values others : List SqlValue}
    {bound tail : BoundText} (ofFirst : Binds first values bound)
    (ofSecond : Binds second others tail) :
    Binds (first ++ second) (values ++ others) (bound ++ tail) := by
  constructor
  · rw [bindFrom_append ofFirst.1, ofFirst.2, ofSecond.1, Option.map_some]
  · rw [List.foldl_append, ofFirst.2, ofSecond.2]

/-- A placeholder takes one value. -/
theorem placeholder (value : SqlValue) : Binds ['?'] [value] [.inr value] := ⟨rfl, rfl⟩

/-- A text without quotes and question marks takes no value. -/
theorem plain {text : List Char} (isPlain : text.all isPlainSymbol = true) :
    Binds text [] (.plain text) := by
  induction text with
  | nil => exact .nil
  | cons symbol rest ih =>
      rw [List.all_cons, Bool.and_eq_true, isPlainSymbol_iff] at isPlain
      have ofFirst : Binds [symbol] [] (.plain [symbol]) := by
        simp [Binds, bindFrom, quoteAfter, isPlain.1, BoundText.plain]
      exact ofFirst.append (ih isPlain.2)

/-- Texts that take values, with a separator between that takes none. -/
theorem intercalate {Item : Type} {separator : List Char} {textOf : Item → List Char}
    {valuesOf : Item → List SqlValue} {boundOf : Item → BoundText}
    (ofSeparator : Binds separator [] (.plain separator)) (items : List Item)
    (each : ∀ item ∈ items, Binds (textOf item) (valuesOf item) (boundOf item)) :
    Binds (separator.intercalate (items.map textOf)) (items.flatMap valuesOf)
      ((BoundText.plain separator).intercalate (items.map boundOf)) := by
  induction items with
  | nil => exact .nil
  | cons item rest ih =>
      have ofItem := each item (List.mem_cons_self ..)
      have ofRest := ih fun later member => each later (List.mem_cons_of_mem _ member)
      cases rest with
      | nil => simpa using ofItem
      | cons next rest =>
          have whole := (ofItem.append ofSeparator).append ofRest
          simpa [List.intercalate_cons_cons] using whole

end Binds

/-! ## Names and numbers -/

/-- What stands in a quoted name: every double quote twice. -/
def doubledQuotes (name : List Char) : List Char :=
  name.flatMap fun symbol => if symbol = '"' then ['"', '"'] else [symbol]

theorem doubledQuotes_cons_quote (rest : List Char) :
    doubledQuotes ('"' :: rest) = '"' :: '"' :: doubledQuotes rest := rfl

theorem doubledQuotes_cons_of_ne {symbol : Char} (isOther : symbol ≠ '"') (rest : List Char) :
    doubledQuotes (symbol :: rest) = symbol :: doubledQuotes rest := by
  simp [doubledQuotes, isOther]

theorem toList_quotedName (name : String) :
    (quotedName name).toList = '"' :: (doubledQuotes name.toList ++ ['"']) := by
  simp [quotedName, doubledQuotes]

/-- Inside a quoted name no value is taken, and the double quote after it closes it. -/
theorem bindFrom_doubledQuotes (name : List Char) :
    bindFrom (some '"') (doubledQuotes name ++ ['"']) [] =
        some (.plain (doubledQuotes name ++ ['"'])) ∧
      (doubledQuotes name ++ ['"']).foldl quoteAfter (some '"') = none := by
  induction name with
  | nil => exact ⟨rfl, rfl⟩
  | cons symbol rest ih =>
      obtain ⟨binds, closes⟩ := ih
      by_cases isQuote : symbol = '"'
      · rw [isQuote, doubledQuotes_cons_quote]
        constructor
        · simp [bindFrom, quoteAfter, binds, BoundText.plain]
        · simpa [quoteAfter] using closes
      · rw [doubledQuotes_cons_of_ne isQuote]
        constructor
        · simp [bindFrom, quoteAfter, isQuote, binds, BoundText.plain]
        · simpa [quoteAfter, isQuote] using closes

/-- A quoted name takes no value, whatever stands in it. -/
theorem Binds.quotedName (name : String) :
    Binds (Inquiry.quotedName name).toList [] (.plain (Inquiry.quotedName name).toList) := by
  obtain ⟨binds, closes⟩ := bindFrom_doubledQuotes name.toList
  rw [toList_quotedName]
  constructor
  · rw [bindFrom_cons, if_neg (by decide)]
    simp only [quoteAfter, true_or, if_true, binds, Option.map_some]
    rfl
  · rw [List.foldl_cons]
    exact closes

/-- The text of an integer is digits, perhaps behind a minus. -/
theorem exists_digits_toString (number : Int) :
    ∃ digits : List Char, (∀ symbol ∈ digits, symbol.isDigit = true) ∧
      ((toString number).toList = digits ∨ (toString number).toList = '-' :: digits) := by
  have areDigits (natural : Nat) : ∀ symbol ∈ natural.repr.toList, symbol.isDigit = true := by
    intro symbol member
    rw [Nat.repr_eq_ofList_toDigits, String.toList_ofList] at member
    exact Nat.isDigit_of_mem_toDigits (by omega) (by omega) member
  cases number with
  | ofNat natural => exact ⟨natural.repr.toList, areDigits natural, .inl rfl⟩
  | negSucc natural =>
      refine ⟨(natural + 1).repr.toList, areDigits (natural + 1), .inr ?_⟩
      simp [Int.toString_eq_repr, Int.repr]

theorem isPlainSymbol_of_isDigit {symbol : Char} (isDigit : symbol.isDigit = true) :
    isPlainSymbol symbol = true := by
  refine isPlainSymbol_iff.2 ⟨?_, ?_, ?_, ?_⟩ <;> rintro rfl <;> revert isDigit <;> decide

/-- The digits of an integer take no value. -/
theorem Binds.integer (number : Int) :
    Binds (toString number).toList [] (.plain (toString number).toList) := by
  obtain ⟨digits, areDigits, same | same⟩ := exists_digits_toString number
  all_goals
    rw [same]
    refine .plain (List.all_eq_true.2 fun symbol member => ?_)
  · exact isPlainSymbol_of_isDigit (areDigits symbol member)
  · rcases List.mem_cons.1 member with rfl | member
    · decide
    · exact isPlainSymbol_of_isDigit (areDigits symbol member)

/-! ## Clauses and selections -/

/-- What the marks of a clause stand for: its values. -/
def Clause.boundMarks : Clause → BoundText
  | .compare _ _ value => [.inr value]
  | .isNull _ _ => []
  | .isAmong _ _ values =>
      BoundText.plain ['('] ++
        (BoundText.plain ", ".toList).intercalate (values.map ([.inr ·])) ++
        BoundText.plain [')']

/-- A clause with its values where they belong. -/
def Clause.bound (clause : Clause) : BoundText :=
  BoundText.plain clause.front.toList ++ clause.boundMarks

theorem Binds.sign (comparison : Comparison) :
    Binds comparison.sign.toList [] (.plain comparison.sign.toList) := by
  refine .plain ?_
  cases comparison <;> decide

theorem Binds.front (clause : Clause) :
    Binds clause.front.toList [] (.plain clause.front.toList) := by
  have blank : Binds " ".toList [] (.plain " ".toList) := .plain (by decide)
  cases clause with
  | compare column comparison value =>
      have whole := (((quotedName column).append blank).append (sign comparison)).append blank
      simpa [Clause.front, BoundText.plain] using whole
  | isNull column negated =>
      have word : Binds (if negated then " IS NOT NULL" else " IS NULL").toList []
          (.plain (if negated then " IS NOT NULL" else " IS NULL").toList) := by
        cases negated <;> exact .plain (by decide)
      have whole := (quotedName column).append word
      simpa [Clause.front, BoundText.plain] using whole
  | isAmong column negated values =>
      have whole := (((quotedName column).append blank).append
        (sign (if negated then .notIn else .isIn))).append blank
      simpa [Clause.front, Clause.membershipSign, BoundText.plain] using whole

theorem Binds.marks (clause : Clause) :
    Binds clause.marks.toList clause.values clause.boundMarks := by
  cases clause with
  | compare column comparison value =>
      simpa [Clause.marks, Clause.values, Clause.boundMarks] using placeholder value
  | isNull column negated => exact .nil
  | isAmong column negated values =>
      have comma : Binds ", ".toList [] (.plain ", ".toList) := .plain (by decide)
      have among : Binds (List.intercalate ", ".toList (values.map fun _ => ['?']))
          (values.flatMap ([·])) ((BoundText.plain ", ".toList).intercalate
            (values.map ([.inr ·]))) :=
        .intercalate comma values fun value _ => .placeholder value
      have opening : Binds ['('] [] (.plain ['(']) := .plain (by decide)
      have closing : Binds [')'] [] (.plain [')']) := .plain (by decide)
      have whole := (opening.append among).append closing
      simpa [Clause.marks, Clause.values, Clause.boundMarks, commaList,
        String.toList_intercalate, Function.comp_def] using whole

/-- **The values of a clause are bound where they belong.** -/
theorem Clause.binds_text (clause : Clause) :
    Binds clause.text.toList clause.values clause.bound := by
  rw [text, String.toList_append]
  exact (Binds.front clause).append (.marks clause)

namespace Selection

/-- The clauses of a selection with their values where they belong. -/
def boundConditions (selection : Selection) : BoundText :=
  if selection.clauses.isEmpty then []
  else
    BoundText.plain " WHERE ".toList ++
      (BoundText.plain " AND ".toList).intercalate (selection.clauses.map Clause.bound)

/-- A selection with its values where they belong. -/
def bound (selection : Selection) : BoundText :=
  BoundText.plain (selection.head ++ quotedName selection.table).toList ++
    selection.boundConditions ++ BoundText.plain selection.tail.toList

theorem binds_conditionText (selection : Selection) :
    Binds selection.conditionText.toList selection.parameters selection.boundConditions := by
  rw [conditionText, parameters, boundConditions]
  split
  case isTrue isEmpty =>
    rw [List.isEmpty_iff.1 isEmpty]
    exact .nil
  case isFalse =>
    have word : Binds " WHERE ".toList [] (.plain " WHERE ".toList) := .plain (by decide)
    have joint : Binds " AND ".toList [] (.plain " AND ".toList) := .plain (by decide)
    have whole := word.append (Binds.intercalate joint selection.clauses fun clause _ =>
      clause.binds_text)
    simpa [conjunction, String.toList_intercalate, Function.comp_def] using whole

theorem binds_tail (selection : Selection) :
    Binds selection.tail.toList [] (.plain selection.tail.toList) := by
  rw [tail]
  cases selection.wanted with
  | count => exact .nil
  | first => exact .plain (by decide)
  | listing order limit =>
      have ofOrder : Binds (orderText order).toList [] (.plain (orderText order).toList) := by
        cases order with
        | none => exact .nil
        | some key =>
            have word : Binds " ORDER BY ".toList [] (.plain " ORDER BY ".toList) :=
              .plain (by decide)
            have direction : Binds (if key.ascending then " ASC" else " DESC").toList []
                (.plain (if key.ascending then " ASC" else " DESC").toList) := by
              cases key.ascending <;> exact .plain (by decide)
            have whole := (word.append (.quotedName key.column)).append direction
            simpa [orderText, BoundText.plain] using whole
      have ofLimit : Binds (limitText limit).toList [] (.plain (limitText limit).toList) := by
        cases limit with
        | none => exact .nil
        | some limit =>
            have word : Binds " LIMIT ".toList [] (.plain " LIMIT ".toList) := .plain (by decide)
            have whole := word.append (.integer limit)
            simpa [limitText, BoundText.plain] using whole
      have whole := ofOrder.append ofLimit
      simpa [BoundText.plain] using whole

/-- **The parameters of a selection are bound where they belong.** -/
theorem binds_text (selection : Selection) :
    Binds selection.text.toList selection.parameters selection.bound := by
  have ofHead : Binds selection.head.toList [] (.plain selection.head.toList) := by
    rw [head]
    cases selection.wanted with
    | count => exact .plain (by decide)
    | first | listing => exact .plain (by simp only; decide)
  have whole := ((ofHead.append (.quotedName selection.table)).append
    selection.binds_conditionText).append selection.binds_tail
  simpa [text, bound, BoundText.plain] using whole

/-- The store binds as many values as there are placeholders, each where it belongs. -/
theorem bindAll_text (selection : Selection) :
    bindAll selection.text selection.parameters = some selection.bound ∧
      placeholders selection.text = selection.parameters.length :=
  ⟨selection.binds_text.1, placeholdersFrom_of_bindFrom selection.binds_text.1⟩

end Selection

end Inquiry
