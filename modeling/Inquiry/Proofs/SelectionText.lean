import Inquiry.Proofs.Compiling
import Inquiry.Proofs.StatementWords

/-!
# No value stands in the text of a selection

The values of an operation come from a model that was asked a question, and may
be anything.  They are kept out of the text that the record store reads, which
is said here in two ways.

By two runs: two operations that differ in nothing but their values lead to the
same text (`text_eq_of_alike`).  What else the text depends on is the shape of
the values, that is, how many there are in a list that a field is to be among,
and whether a field is to equal null.

By what the text is made of: read as words, it has fixed words, numbers and
signs, and besides these only quoted names, each of which is the name of the
table or of a field of its entity (`fits_of_ofOperation`).  For a text to be
read in this way whatever the names hold, each piece of it has to be read in the
same way wherever it stands (`MadeOf`).
-/

set_option autoImplicit false

namespace Inquiry

/-! ## Alike but for values -/

/-- Two conditions that differ in nothing but their values.  Where the comparison is membership, the
values are lists of the same length or no lists; where it is equality, both are null or neither. -/
structure Condition.Alike (first second : Condition) : Prop where
  field : first.field = second.field
  comparison : Comparison.ofText? first.comparison = Comparison.ofText? second.comparison
  arrays : ∀ comparison ∈ Comparison.ofText? first.comparison, comparison.isMembership = true →
    first.value.array?.map List.length = second.value.array?.map List.length
  nulls : ∀ comparison ∈ Comparison.ofText? first.comparison,
    comparison = .equal ∨ comparison = .notEqual → first.value.isNull = second.value.isNull

/-- Two operations that differ in nothing but the record name and the values of conditions. -/
structure Operation.Alike (catalog : Catalog) (first second : Operation) : Prop where
  kind : first.kind? = second.kind?
  entity : first.parameters.doctype.bind catalog.entity? =
    second.parameters.doctype.bind catalog.entity?
  orderBy : first.parameters.orderBy = second.parameters.orderBy
  limit : first.parameters.limit = second.parameters.limit
  filters : List.Forall₂ Condition.Alike first.parameters.filters second.parameters.filters

namespace Selection

/-- Membership is in a list, where there is one. -/
theorem clauseOf_of_isMembership {comparison : Comparison}
    (isMembership : comparison.isMembership = true) (column : String) (value : Json) :
    clauseOf column comparison value =
      match value.array? with
      | some items => .isAmong column (comparison = .notIn) (items.map SqlValue.ofJson)
      | none => .compare column comparison (.ofJson value) := by
  cases comparison with
  | isIn | notIn => cases value <;> rfl
  | _ => cases isMembership

/-- Equality with null is said in its own way. -/
theorem clauseOf_of_equality {comparison : Comparison}
    (isEquality : comparison = .equal ∨ comparison = .notEqual) (column : String) (value : Json) :
    clauseOf column comparison value =
      if value.isNull then .isNull column (comparison = .notEqual)
      else .compare column comparison (.ofJson value) := by
  rcases isEquality with rfl | rfl <;> cases value <;> rfl

/-- The text of a clause depends on the value by its length, if it is a list that a column is to be
among, and by whether it is null, if a column is to equal it. -/
theorem text_clauseOf {comparison : Comparison} {value other : Json}
    (arrays : comparison.isMembership = true →
      value.array?.map List.length = other.array?.map List.length)
    (nulls : comparison = .equal ∨ comparison = .notEqual → value.isNull = other.isNull)
    (column : String) :
    (clauseOf column comparison value).text = (clauseOf column comparison other).text := by
  by_cases isMembership : comparison.isMembership = true
  · replace arrays := arrays isMembership
    rw [clauseOf_of_isMembership isMembership, clauseOf_of_isMembership isMembership]
    cases ofValue : value.array? <;> cases ofOther : other.array? <;>
      rw [ofValue, ofOther] at arrays
    case none.none => rfl
    case none.some | some.none => cases arrays
    case some.some items others =>
      simp only [Clause.text, Clause.front, Clause.marks, List.map_const', List.length_map,
        Option.some.inj arrays]
  · by_cases isEquality : comparison = .equal ∨ comparison = .notEqual
    · rw [clauseOf_of_equality isEquality, clauseOf_of_equality isEquality, nulls isEquality]
      split <;> rfl
    · cases comparison with
      | isIn | notIn => exact absurd rfl isMembership
      | equal => exact absurd (.inl rfl) isEquality
      | notEqual => exact absurd (.inr rfl) isEquality
      | less | greater | atMost | atLeast | like => rfl

/-- Conditions that are alike stand for clauses of the same text. -/
theorem text_eq_of_isClauseOf {entity : Entity} {first second : Condition} {clause other : Clause}
    (alike : first.Alike second) (ofFirst : IsClauseOf entity first clause)
    (ofSecond : IsClauseOf entity second other) : clause.text = other.text := by
  obtain ⟨-, comparison, means, rfl⟩ := ofFirst
  obtain ⟨-, same, alsoMeans, rfl⟩ := ofSecond
  rw [← alike.comparison, means] at alsoMeans
  obtain rfl := Option.some.inj alsoMeans
  rw [← alike.field]
  exact text_clauseOf (alike.arrays comparison means) (alike.nulls comparison means) _

theorem texts_eq_of_isClauseOf {entity : Entity} {first second : List Condition}
    {clauses others : List Clause} (alike : List.Forall₂ Condition.Alike first second)
    (ofFirst : List.Forall₂ (IsClauseOf entity) first clauses)
    (ofSecond : List.Forall₂ (IsClauseOf entity) second others) :
    clauses.map Clause.text = others.map Clause.text := by
  induction alike generalizing clauses others with
  | nil =>
      cases ofFirst
      cases ofSecond
      rfl
  | cons alike _ ih =>
      obtain ⟨clause, clauses, ofClause, ofRest, rfl⟩ := List.forall₂_cons_left_iff.1 ofFirst
      obtain ⟨other, others, ofOther, ofOthers, rfl⟩ := List.forall₂_cons_left_iff.1 ofSecond
      rw [List.map_cons, List.map_cons, text_eq_of_isClauseOf alike ofClause ofOther,
        ih ofRest ofOthers]

/-- Clauses for record names have the same text whatever the names are. -/
theorem texts_eq_of_nameClauses {kind : OperationKind} {name other : Option String}
    {named others : List Clause} (ofName : nameClauses kind name = .ok named)
    (ofOther : nameClauses kind other = .ok others) :
    named.map Clause.text = others.map Clause.text := by
  cases kind with
  | search | count =>
      obtain rfl := Except.ok.inj ofName
      obtain rfl := Except.ok.inj ofOther
      rfl
  | details =>
      cases name <;> cases other <;> cases ofName <;> cases ofOther
      rfl

/-- The text of a selection is that of its clauses, in a frame. -/
theorem text_eq_of_clauses {one other : Selection} (table : one.table = other.table)
    (clauses : one.clauses.map Clause.text = other.clauses.map Clause.text)
    (wanted : one.wanted = other.wanted) : one.text = other.text := by
  have sameLength : one.clauses.isEmpty = other.clauses.isEmpty := by
    have isEmpty := congrArg List.isEmpty clauses
    simpa using isEmpty
  rw [text, text, head, head, tail, tail, conditionText, conditionText, table, clauses, wanted,
    sameLength]

/-- Operations that are alike but for values lead to the same text. -/
theorem text_eq_of_alike {catalog : Catalog} {first second : Operation} {one other : Selection}
    (alike : first.Alike catalog second) (ofFirst : ofOperation catalog first = .ok one)
    (ofSecond : ofOperation catalog second = .ok other) : one.text = other.text := by
  obtain ⟨kind, doctype, entity, named, clauses, wanted, ofKind, ofDoctype, known, ofName,
    ofFilters, ofWanted, rfl⟩ := ofOperation_eq_ok_iff.1 ofFirst
  obtain ⟨kind', doctype', entity', named', clauses', wanted', ofKind', ofDoctype', known',
    ofName', ofFilters', ofWanted', rfl⟩ := ofOperation_eq_ok_iff.1 ofSecond
  obtain rfl := Option.some.inj ((ofKind.symm.trans alike.kind).trans ofKind')
  have sameEntity := alike.entity
  rw [ofDoctype, ofDoctype', Option.bind_some, Option.bind_some, known, known'] at sameEntity
  obtain rfl := Option.some.inj sameEntity
  refine text_eq_of_clauses rfl ?_ ?_
  · rw [List.map_append, List.map_append, texts_eq_of_nameClauses ofName ofName',
      texts_eq_of_isClauseOf alike.filters ofFilters ofFilters']
  · refine Except.ok.inj ((ofWanted.symm.trans ?_).trans ofWanted')
    simp only [wantedOf, alike.orderBy, alike.limit]

end Selection

/-! ## Words of a text -/

namespace StatementWord

/-- The plain words of selections: keywords, and what a count is called. -/
def fixedWords : List String :=
  ["SELECT", "COUNT", "AS", "count", "FROM", "WHERE", "AND", "IS", "NOT", "NULL", "IN", "LIKE",
    "ORDER", "BY", "ASC", "DESC", "LIMIT"]

/-- Whether a word of this kind, written in this way, is fixed, a number or a sign. -/
def isPlainlyFixed : WordKind → (written : List Char) → Bool
  | .plain, written => fixedWords.contains (String.ofList written)
  | .number, _ => true
  | .sign, _ => true
  | _, _ => false

/-- Whether a text has no quotes and all its words are fixed, numbers or signs. -/
def isFixedText (text : List Char) : Bool :=
  text.all (fun symbol => !isQuote symbol) &&
    (wordsOf text).all fun word => isPlainlyFixed word.1 word.2

/-- A word that is fixed, a number or a sign, or one of the names between double quotes. -/
inductive Fits (names : String → Prop) : WordKind → (written : List Char) → Prop where
  | fixed {kind : WordKind} {written : List Char}
      (isFixed : isPlainlyFixed kind written = true) : Fits names kind written
  | named {name : String} (isName : names name) :
      Fits names (.doubtful name) (quotedName name).toList

/-- A text is made of words that fit, wherever it stands, as long as what follows stands apart. -/
def MadeOf (names : String → Prop) (text : List Char) : Prop :=
  ∀ rest, Apart rest → ∀ word ∈ wordsOf (text ++ rest),
    Fits names word.1 word.2 ∨ word ∈ wordsOf rest

/-- A text that may follow any other one is made of words that fit. -/
structure Continues (names : String → Prop) (text : List Char) : Prop where
  made : MadeOf names text
  apart : Apart text

variable {names : String → Prop}

namespace MadeOf

theorem nil : MadeOf names [] := fun _ _ _ => .inr

theorem append {first second : List Char} (ofFirst : MadeOf names first)
    (ofSecond : Continues names second) : MadeOf names (first ++ second) := by
  intro rest apart word member
  rw [List.append_assoc] at member
  rcases ofFirst _ (ofSecond.apart.append apart) word member with fits | member
  · exact .inl fits
  · exact ofSecond.made rest apart word member

theorem blank {text : List Char} (made : MadeOf names text) : Continues names (' ' :: text) := by
  refine ⟨?_, apart_blank text⟩
  intro rest apart word member
  rw [List.cons_append, wordsOf_blank (by decide)] at member
  exact made rest apart word member

/-- A sign of one character is a word by itself, whatever follows. -/
theorem sign (symbol : Char) (isSign : symbol ∈ ['(', ')', '?', ',', '-']) {text : List Char}
    (made : MadeOf names text) : MadeOf names (symbol :: text) := by
  intro rest apart word member
  have read : ¬ SqlValue.isNumberBlank symbol = true ∧
      wordAt symbol (text ++ rest) = (.sign, 1) := by
    simp only [List.mem_cons, List.not_mem_nil, or_false] at isSign
    rcases isSign with rfl | rfl | rfl | rfl | rfl <;> exact ⟨by decide, rfl⟩
  rw [List.cons_append, wordsOf_cons read.1, read.2] at member
  rcases List.mem_cons.1 member with rfl | member
  · exact .inl (.fixed rfl)
  · exact made rest apart word member

/-- Text without quotes whose words are fixed. -/
theorem fixed {text : List Char} (isFixed : isFixedText text = true) : MadeOf names text := by
  obtain ⟨unquoted, isFixed⟩ := Bool.and_eq_true_iff.1 isFixed
  intro rest apart word member
  rw [wordsOf_append (unquoted_of_all unquoted) apart] at member
  rcases List.mem_append.1 member with member | member
  · exact .inl (.fixed (List.all_eq_true.1 isFixed word member))
  · exact .inr member

theorem quotedName {name : String} (isName : names name) :
    MadeOf names (quotedName name).toList := by
  intro rest apart word member
  have fits : Fits names (.doubtful name) (Inquiry.quotedName name).toList := .named isName
  rw [wordsOf_quotedName name apart] at member
  rcases List.mem_cons.1 member with rfl | member
  · exact .inl fits
  · exact .inr member

/-- The text of an integer. -/
theorem integer (number : Int) : MadeOf names (toString number).toList := by
  have ofDigits {digits : List Char} (areDigits : ∀ symbol ∈ digits, symbol.isDigit = true) :
      MadeOf names digits := by
    apply fixed
    apply Bool.and_eq_true_iff.2
    constructor
    · apply List.all_eq_true.2
      intro symbol member
      rw [(of_isDigit (areDigits symbol member)).2.1]
      rfl
    · cases digits with
      | nil => rfl
      | cons first others =>
          rw [wordsOf_digits areDigits (List.cons_ne_nil _ _)]
          rfl
  obtain ⟨digits, areDigits, same | same⟩ := exists_digits_toString number
  · rw [same]
    exact ofDigits areDigits
  · rw [same]
    exact (ofDigits areDigits).sign '-' (by decide)

/-- Texts of which each is made of words that fit, with the word AND between. -/
theorem conjunction {texts : List (List Char)} (each : ∀ text ∈ texts, MadeOf names text) :
    MadeOf names (" AND ".toList.intercalate texts) := by
  induction texts with
  | nil => exact nil
  | cons first rest ih =>
      obtain ⟨ofFirst, ofRest⟩ := List.forall_mem_cons.1 each
      cases rest with
      | nil => simpa using ofFirst
      | cons next rest =>
          have word : MadeOf names "AND".toList := .fixed (by decide)
          have whole := ofFirst.append (word.append (ih ofRest).blank).blank
          simpa [List.intercalate_cons_cons] using whole

/-- The marks for a list of values, in front of another text. -/
theorem questionMarks {text : List Char} (made : MadeOf names text) (values : List SqlValue) :
    MadeOf names (", ".toList.intercalate (values.map fun _ => ['?']) ++ text) := by
  induction values with
  | nil => exact made
  | cons value rest ih =>
      cases rest with
      | nil => exact made.sign '?' (by decide)
      | cons next rest =>
          have whole := (ih.blank.made.sign ',' (by decide)).sign '?' (by decide)
          simpa [List.intercalate_cons_cons] using whole

end MadeOf

namespace Continues

theorem nil : Continues names [] := ⟨.nil, apart_nil⟩

theorem append {first second : List Char} (ofFirst : Continues names first)
    (ofSecond : Continues names second) : Continues names (first ++ second) :=
  ⟨ofFirst.made.append ofSecond, ofFirst.apart.append ofSecond.apart⟩

end Continues

/-! ## The text of a selection -/

/-- The text of a clause about one of the names. -/
theorem madeOf_clause {clause : Clause} (isName : names clause.column) :
    MadeOf names clause.text.toList := by
  cases clause with
  | compare column comparison value =>
      replace isName : names column := isName
      have mark : MadeOf names (comparison.sign.toList ++ [' ', '?']) := by
        cases comparison <;> exact .fixed (by decide)
      have whole := (MadeOf.quotedName isName).append mark.blank
      simpa [Clause.text, Clause.front, Clause.marks] using whole
  | isNull column negated =>
      replace isName : names column := isName
      cases negated
      · have words : MadeOf names "IS NULL".toList := .fixed (by decide)
        simpa [Clause.text, Clause.front, Clause.marks] using
          (MadeOf.quotedName isName).append words.blank
      · have words : MadeOf names "IS NOT NULL".toList := .fixed (by decide)
        simpa [Clause.text, Clause.front, Clause.marks] using
          (MadeOf.quotedName isName).append words.blank
  | isAmong column negated values =>
      replace isName : names column := isName
      have sign : MadeOf names (Clause.membershipSign negated).toList := by
        cases negated <;> exact .fixed (by decide)
      have closing : MadeOf names [')'] := MadeOf.nil.sign ')' (by decide)
      have marks := (closing.questionMarks values).sign '(' (by decide)
      have whole := (MadeOf.quotedName isName).append (sign.append marks.blank).blank
      simpa [Clause.text, Clause.front, Clause.marks, commaList, String.toList_intercalate,
        Function.comp_def] using whole

/-- The text of clauses about the names. -/
theorem continues_conditionText {selection : Selection}
    (areNames : ∀ clause ∈ selection.clauses, names clause.column) :
    Continues names selection.conditionText.toList := by
  rw [Selection.conditionText]
  split
  · exact .nil
  · have word : MadeOf names "WHERE".toList := .fixed (by decide)
    have each : ∀ text ∈ selection.clauses.map (fun clause => clause.text.toList),
        MadeOf names text := by
      intro text member
      obtain ⟨clause, ofClause, rfl⟩ := List.mem_map.1 member
      exact madeOf_clause (areNames clause ofClause)
    have whole := (word.append (MadeOf.conjunction each).blank).blank
    simpa [Selection.conjunction, String.toList_intercalate, Function.comp_def] using whole

/-- The text of an order by one of the names. -/
theorem continues_orderText {order : Option SortKey}
    (areNames : ∀ key ∈ order, names key.column) :
    Continues names (Selection.orderText order).toList := by
  cases order with
  | none => exact .nil
  | some key =>
      have words : MadeOf names "ORDER BY".toList := .fixed (by decide)
      have direction : Continues names (if key.ascending then " ASC" else " DESC").toList := by
        cases key.ascending
        · exact MadeOf.blank (.fixed (by decide))
        · exact MadeOf.blank (.fixed (by decide))
      have column := (MadeOf.quotedName (areNames key rfl)).append direction
      have whole := (words.append column.blank).blank
      simpa [Selection.orderText] using whole

/-- The text of a limit. -/
theorem continues_limitText (limit : Option Int) :
    Continues names (Selection.limitText limit).toList := by
  cases limit with
  | none => exact .nil
  | some limit =>
      have word : MadeOf names "LIMIT".toList := .fixed (by decide)
      have whole := (word.append (MadeOf.integer limit).blank).blank
      simpa [Selection.limitText] using whole

theorem continues_tail {selection : Selection}
    (areNames : ∀ key limit, selection.wanted = .listing (some key) limit → names key.column) :
    Continues names selection.tail.toList := by
  rw [Selection.tail]
  cases wanted : selection.wanted with
  | count => exact .nil
  | first => exact MadeOf.blank (.fixed (by decide))
  | listing order limit =>
      have ofOrder : Continues names (Selection.orderText order).toList := by
        refine continues_orderText fun key isKey => areNames key limit ?_
        rw [wanted, isKey]
      simpa using ofOrder.append (continues_limitText limit)

/-- The text of a selection of a table by columns, when these are among the names. -/
theorem madeOf_text {selection : Selection} (table : names selection.table)
    (columns : ∀ clause ∈ selection.clauses, names clause.column)
    (keys : ∀ key limit, selection.wanted = .listing (some key) limit → names key.column) :
    MadeOf names selection.text.toList := by
  have head : ∃ words, selection.head.toList = words ++ [' '] ∧ MadeOf names words := by
    rw [Selection.head]
    split
    · exact ⟨"SELECT COUNT(*) AS count FROM".toList, rfl, .fixed (by decide)⟩
    · exact ⟨"SELECT * FROM".toList, rfl, .fixed (by decide)⟩
  obtain ⟨words, ofHead, made⟩ := head
  have rest := (continues_conditionText columns).append (continues_tail keys)
  have whole := made.append ((MadeOf.quotedName table).append rest).blank
  simpa [Selection.text, ofHead] using whole

end StatementWord

namespace Selection

/-- A name that may stand in statements about an entity: that of its table or of a field. -/
def NameOf (entity : Entity) (name : String) : Prop :=
  name = entity.tableName ∨ entity.hasField name = true

/-- Every word in the text of a selection is fixed, a number or a sign, or a quoted name of its
entity. -/
theorem fits_of_ofOperation {catalog : Catalog} {given : Operation} {selection : Selection}
    (made : ofOperation catalog given = .ok selection) :
    ∃ doctype entity, given.parameters.doctype = some doctype ∧
      catalog.entity? doctype = some entity ∧
      ∀ word ∈ StatementWord.ofText selection.text.toList,
        StatementWord.Fits (NameOf entity) word.kind word.written := by
  obtain ⟨doctype, entity, ofDoctype, known, isAbout⟩ := isAbout_of_ofOperation made
  refine ⟨doctype, entity, ofDoctype, known, ?_⟩
  intro word member
  have madeOf : StatementWord.MadeOf (NameOf entity) selection.text.toList :=
    StatementWord.madeOf_text (.inl isAbout.table)
      (fun clause member => .inr (isAbout.selected clause member))
      (fun key limit wanted => .inr (isAbout.sorted key limit wanted))
  have fits := madeOf [] StatementWord.apart_nil (StatementWord.lexeme word)
    (by rw [List.append_nil]; exact List.mem_map_of_mem member)
  exact fits.resolve_right (List.not_mem_nil)

/-- **No value stands in the text of a selection.**

Operations that are alike but for the record name and the values of their conditions lead to the
same text.  And every word in the text of a selection is fixed, a number or a sign, or it is a
quoted name: that of the table of the entity, or of one of its fields. -/
theorem no_value_in_text (catalog : Catalog) :
    (∀ (first second : Operation) (one other : Selection), first.Alike catalog second →
      ofOperation catalog first = .ok one → ofOperation catalog second = .ok other →
        one.text = other.text) ∧
    ∀ (given : Operation) (selection : Selection), ofOperation catalog given = .ok selection →
      ∃ doctype entity, given.parameters.doctype = some doctype ∧
        catalog.entity? doctype = some entity ∧
        ∀ word ∈ StatementWord.ofText selection.text.toList,
          StatementWord.Fits (NameOf entity) word.kind word.written :=
  ⟨fun _ _ _ _ => text_eq_of_alike, fun _ _ => fits_of_ofOperation⟩

/-- A catalog of items, which have a field with a quote in its name. -/
def sizedItems : Catalog :=
  .alone { name := "Item", fields := [{ name := "12\" size", type := .data }] }
    Check.itemCatalog_isNamed

/-- One item, by its name and by conditions with the same value. -/
def itemWith (record : String) (value : Json) : Operation where
  name := "get_document_details"
  parameters :=
    { doctype := some "item"
      filters := [⟨"docstatus", "In", .array [value, .integer 1]⟩, ⟨"12\" size", "like", value⟩]
      name := some record }

/-- Items with different names and values are fetched by the same text. -/
theorem alike_itemWith (record other : String) (value another : Json) :
    (itemWith record value).Alike sizedItems (itemWith other another) where
  kind := rfl
  entity := rfl
  orderBy := rfl
  limit := rfl
  filters := by
    have meant : Comparison.ofText? "like" = some .like := rfl
    refine .cons ⟨rfl, rfl, fun _ _ _ => rfl, fun _ _ _ => rfl⟩
      (.cons ⟨rfl, rfl, fun comparison means impossible => ?_,
        fun comparison means impossible => ?_⟩ .nil)
    all_goals
      obtain rfl := Option.some.inj (meant.symm.trans means)
      exact absurd impossible (by decide)

/-- A record name and a value with quotes and keywords leave the text as it is, and the words of
this text are names of items. -/
theorem no_value_in_text_itemWith :
    (itemWith "I-1" .null).Alike sizedItems (itemWith "' OR 1=1 --" (.string "\"; DROP TABLE")) ∧
      ∃ one other, ofOperation sizedItems (itemWith "I-1" .null) = .ok one ∧
        ofOperation sizedItems (itemWith "' OR 1=1 --" (.string "\"; DROP TABLE")) = .ok other ∧
        one.text = "SELECT * FROM \"tabItem\" WHERE \"name\" = ? AND " ++
          "\"docstatus\" IN (?, ?) AND \"12\"\" size\" LIKE ? LIMIT 1" ∧
        one.text = other.text ∧
        ∃ entity, sizedItems.entity? "item" = some entity ∧
          ∀ word ∈ StatementWord.ofText one.text.toList,
            StatementWord.Fits (NameOf entity) word.kind word.written := by
  obtain ⟨sameText, fits⟩ := no_value_in_text sizedItems
  have alike := alike_itemWith "I-1" "' OR 1=1 --" .null (.string "\"; DROP TABLE")
  obtain ⟨one, ofFirst⟩ : ∃ one, ofOperation sizedItems (itemWith "I-1" .null) = .ok one :=
    exists_eq_ok_of_isOk (by decide +kernel)
  obtain ⟨other, ofSecond⟩ : ∃ other, ofOperation sizedItems
      (itemWith "' OR 1=1 --" (.string "\"; DROP TABLE")) = .ok other :=
    exists_eq_ok_of_isOk (by decide +kernel)
  obtain ⟨doctype, entity, ofDoctype, known, words⟩ := fits _ one ofFirst
  obtain rfl := Option.some.inj ofDoctype
  refine ⟨alike, one, other, ofFirst, ofSecond, ?_, sameText _ _ one other alike ofFirst ofSecond,
    entity, known, words⟩
  have text : (ofOperation sizedItems (itemWith "I-1" .null)).toOption.map Selection.text =
      some ("SELECT * FROM \"tabItem\" WHERE \"name\" = ? AND " ++
        "\"docstatus\" IN (?, ?) AND \"12\"\" size\" LIKE ? LIMIT 1") := by
    decide +kernel
  rw [ofFirst] at text
  exact Option.some.inj text

end Selection

end Inquiry
