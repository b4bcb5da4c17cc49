import Inquiry.Proofs.Acceptance
import Inquiry.Proofs.Attempts
import Inquiry.Proofs.Compiling
import Inquiry.Proofs.Lowering
import Inquiry.Proofs.Trimming
import Inquiry.Store.Records
import Mathlib.Data.List.Infix

/-!
# Missing records

A record book answers the fetching of a record that it does not hold with a
complaint, in which the record type and the name of the record stand as they were
given.  Execution reads the words of complaints, whatever their codes are, to find
out whether a table is missing.  So it matters what the two given texts say.

The words by which missing tables are told stand in the complaint exactly when they
stand in one of the two texts, in any case (`isAboutTable_notFound_iff`): around the
name there are single quotes next to blanks, and the words can neither reach across
such a pair nor into it (`NoSeam`).  If they do not stand there, the failure is the
complaint.  If they do, the record that is missing is reported as a table that cannot
be resolved (`execute_missing_iff`).
-/

set_option autoImplicit false

namespace Inquiry.Text

/-! ## Where words stand -/

/-- A text holds a pattern when the pattern stands in it. -/
theorem holds_iff {text pattern : List Char} : holds text pattern = true ↔ pattern <:+: text := by
  induction text with
  | nil =>
      rw [holds, cutAt?, List.infix_nil]
      cases pattern <;> simp [List.isPrefixOf?]
  | cons symbol rest ih =>
      rw [List.infix_cons_iff, ← ih, holds, holds, cutAt?]
      cases begins : pattern.isPrefixOf? (symbol :: rest) with
      | some after => exact iff_of_true rfl (.inl ⟨after, append_of_isPrefixOf? begins⟩)
      | none =>
          rw [or_iff_right (Code.isPrefixOf?_eq_none_iff.1 begins)]
          cases cutAt? pattern rest <;> rfl

theorem mentions_iff {text : List Char} {words : String} :
    mentions text words = true ↔ words.toList <:+: text := holds_iff

/-- A pattern reaches neither across a pair of characters nor into it from either side. -/
structure NoSeam (first second : Char) (pattern : List Char) : Prop where
  apart : ¬ [first, second] <:+: pattern
  notLast : pattern.getLast? ≠ some first
  notFirst : pattern.head? ≠ some second

instance (first second : Char) (pattern : List Char) : Decidable (NoSeam first second pattern) :=
  decidable_of_iff
    (¬ [first, second] <:+: pattern ∧ pattern.getLast? ≠ some first ∧ pattern.head? ≠ some second)
    ⟨fun ⟨apart, notLast, notFirst⟩ => ⟨apart, notLast, notFirst⟩,
      fun noSeam => ⟨noSeam.apart, noSeam.notLast, noSeam.notFirst⟩⟩

variable {first second : Char} {pattern : List Char}

/-- A pattern that begins in front of the pair ends there. -/
theorem NoSeam.isPrefix (noSeam : NoSeam first second pattern) {front rest : List Char}
    (begins : pattern <+: front ++ first :: second :: rest) : pattern <+: front := by
  rcases Nat.le_total pattern.length front.length with short | long
  · exact List.prefix_of_prefix_length_le begins (List.prefix_append ..) short
  · obtain ⟨tail, rfl⟩ := List.prefix_of_prefix_length_le (List.prefix_append ..) begins long
    obtain ⟨after, same⟩ := (List.prefix_append_right_inj front).1 begins
    rcases tail with _ | ⟨one, _ | ⟨two, more⟩⟩
    · simp
    · obtain ⟨rfl, -⟩ := List.cons.inj same
      exact absurd List.getLast?_concat noSeam.notLast
    · obtain ⟨rfl, next⟩ := List.cons.inj same
      obtain ⟨rfl, -⟩ := List.cons.inj next
      exact absurd ⟨front, more, by simp⟩ noSeam.apart

theorem NoSeam.eq_nil (noSeam : NoSeam first second pattern) {rest : List Char}
    (begins : pattern <+: second :: rest) : pattern = [] := by
  cases pattern with
  | nil => rfl
  | cons symbol pattern =>
      obtain ⟨rfl, -⟩ := List.cons_prefix_cons.1 begins
      exact absurd rfl noSeam.notFirst

/-- Such a pattern stands in front of the pair or behind it. -/
theorem NoSeam.isInfix_iff (noSeam : NoSeam first second pattern) {front rest : List Char} :
    pattern <:+: front ++ first :: second :: rest ↔ pattern <:+: front ∨ pattern <:+: rest := by
  induction front with
  | nil =>
      rw [List.nil_append, List.infix_cons_iff, List.infix_cons_iff, ← or_assoc]
      refine or_congr ⟨?_, fun inside => ?_⟩ .rfl
      · rintro (begins | begins)
        · have here : pattern <+: [] := noSeam.isPrefix begins
          exact here.isInfix
        · exact noSeam.eq_nil begins ▸ List.nil_infix
      · exact .inl (List.infix_nil.1 inside ▸ List.nil_prefix)
  | cons symbol front ih =>
      rw [List.cons_append, List.infix_cons_iff, List.infix_cons_iff, ih, ← or_assoc]
      refine or_congr (or_congr ⟨fun begins => noSeam.isPrefix begins, fun begins => ?_⟩ .rfl) .rfl
      exact begins.trans (List.prefix_append (symbol :: front) _)

/-- A text with a character other than blanks is not trimmed to nothing. -/
theorem trimmed_ne_empty {text : String} {symbol : Char} (member : symbol ∈ text.toList)
    (notBlank : isBlank symbol = false) : trimmed text ≠ "" := by
  intro isEmpty
  obtain ⟨front, back, ofFront, ofBack, whole⟩ := Code.exists_blanks_around text.toList
  have isNil : trim text.toList = [] := by
    simpa [trimmed] using congrArg String.toList isEmpty
  rw [whole, isNil, List.append_nil, List.mem_append] at member
  have blank : isBlank symbol = true := member.elim (ofFront symbol) (ofBack symbol)
  rw [notBlank] at blank
  cases blank

/-! ## Lower case between single quotes -/

/-- Case passes a single quote over. -/
theorem singleQuote_ignored : caseIgnorableRanges.holds '\'' = true := by decide +kernel

/-- A single quote at the end does not matter for the search for a letter. -/
theorem meetsCased_append_quote (text : List Char) :
    meetsCased (text ++ ['\'']) = meetsCased text := by
  rw [meetsCased, meetsCased, List.dropWhile_append]
  cases left : text.dropWhile caseIgnorableRanges.holds with
  | nil =>
      rw [List.isEmpty_nil, if_pos rfl, List.dropWhile_cons_of_pos singleQuote_ignored]
      rfl
  | cons first others => rfl

theorem lowerAfter_quoted (before text : List Char) :
    lowerAfter (before ++ ['\'']) (text ++ ['\'']) = lowerAfter before text ++ ['\''] := by
  induction text generalizing before with
  | nil => rfl
  | cons first rest ih =>
      rw [List.cons_append, lowerAfter, lowerAfter, meetsCased_append_quote,
        meetsCased_append_quote, List.append_assoc]
      exact congrArg _ (ih (first :: before))

/-- A text between single quotes is lowered by itself. -/
theorem lower_quoted (text : List Char) :
    lower ('\'' :: (text ++ ['\''])) = '\'' :: (lower text ++ ['\'']) :=
  congrArg ('\'' :: ·) (lowerAfter_quoted [] text)

end Inquiry.Text

namespace Inquiry

open Inquiry.Text

/-! ## The complaint about a missing record -/

/-- One of two texts says some words, in any case. -/
def Says (doctype name words : String) : Prop :=
  words.toList <:+: lower doctype.toList ∨ words.toList <:+: lower name.toList

instance (doctype name words : String) : Decidable (Says doctype name words) :=
  inferInstanceAs (Decidable (_ ∨ _))

/-- Two texts say what stores say about tables that do not exist. -/
def SoundsLikeTable (doctype name : String) : Prop :=
  (∃ words ∈ Diagnosis.tableWords, Says doctype name words) ∨
    (Says doctype name "table" ∧ Says doctype name "doesn't exist")

instance (doctype name : String) : Decidable (SoundsLikeTable doctype name) :=
  inferInstanceAs (Decidable (_ ∨ _))

namespace RecordBook

/-- The complaint in lower case has the record type and the name in lower case. -/
theorem lower_notFound (doctype name : String) :
    lower (notFound doctype name).message.toList =
      lower doctype.toList ++ ' ' :: '\'' ::
        (lower name.toList ++ '\'' :: ' ' :: "not found".toList) := by
  have written : (notFound doctype name).message.toList =
      doctype.toList ++ ' ' :: ('\'' :: (name.toList ++ ['\'']) ++ ' ' :: "not found".toList) := by
    simp [notFound]
  have ending : lower "not found".toList = "not found".toList := by decide +kernel
  rw [written, lower_append_blank (by decide), lower_append_blank (by decide), lower_quoted, ending]
  simp

/-- Words without a seam stand in the complaint when they stand in the record type or the name. -/
theorem mentions_notFound_iff {words : String} (noFront : NoSeam ' ' '\'' words.toList)
    (noBack : NoSeam '\'' ' ' words.toList) (notEnd : ¬ words.toList <:+: "not found".toList)
    (doctype name : String) :
    mentions (lower (notFound doctype name).message.toList) words = true ↔
      Says doctype name words := by
  rw [mentions_iff, lower_notFound, noFront.isInfix_iff, noBack.isInfix_iff, or_iff_left notEnd]
  rfl

/-- The complaint about a missing record is taken for one about a table exactly when the record
type or the name sounds like one. -/
theorem isAboutTable_notFound_iff (doctype name : String) :
    Diagnosis.isAboutTable (notFound doctype name) = true ↔ SoundsLikeTable doctype name := by
  have notByCode : Diagnosis.tableCodes.contains (notFound doctype name).code = false :=
    (by decide +kernel : Diagnosis.tableCodes.contains "not_found" = false)
  have ofWords : ∀ words ∈ Diagnosis.tableWords ++ ["table", "doesn't exist"],
      mentions (lower (notFound doctype name).message.toList) words = true ↔
        Says doctype name words := by
    have checked : ∀ words ∈ Diagnosis.tableWords ++ ["table", "doesn't exist"],
        NoSeam ' ' '\'' words.toList ∧ NoSeam '\'' ' ' words.toList ∧
          ¬ words.toList <:+: "not found".toList := by
      decide +kernel
    intro words member
    obtain ⟨noFront, noBack, notEnd⟩ := checked words member
    exact mentions_notFound_iff noFront noBack notEnd doctype name
  obtain ⟨ofTableWords, ofOthers⟩ := List.forall_mem_append.1 ofWords
  rw [Diagnosis.isAboutTable]
  simp only [notByCode, Bool.false_or, Bool.or_eq_true, Bool.and_eq_true, List.any_eq_true]
  refine or_congr (exists_congr fun words => and_congr_right fun member => ?_) (and_congr ?_ ?_)
  · exact ofTableWords words member
  · exact ofOthers "table" (List.mem_cons_self ..)
  · exact ofOthers "doesn't exist" (List.mem_cons_of_mem _ (List.mem_cons_self ..))

/-- The complaint is never blank. -/
theorem trimmed_notFound (doctype name : String) :
    Text.trimmed (notFound doctype name).message ≠ "" := by
  have quote : '\'' ∈ (notFound doctype name).message.toList := by
    simp [notFound]
  exact trimmed_ne_empty quote (by decide)

/-- The failure for a missing record: its complaint, unless that is taken for one about a table. -/
theorem failure_notFound_iff (doctype name : String) :
    ((notFound doctype name).failure = ⟨.other, (notFound doctype name).message⟩ ↔
      ¬ SoundsLikeTable doctype name) ∧
    (SoundsLikeTable doctype name → ∃ table,
      (notFound doctype name).failure = ⟨.incorrectTableName, unresolvedTable table⟩) := by
  by_cases sounds : SoundsLikeTable doctype name
  · have about := (isAboutTable_notFound_iff doctype name).2 sounds
    have failure : (notFound doctype name).failure =
        ⟨.incorrectTableName,
          unresolvedTable (Diagnosis.namedTable? (notFound doctype name).message.toList)⟩ := by
      rw [StoreError.failure, StoreError.diagnosis, if_pos about]
    rw [failure]
    exact ⟨iff_of_false nofun (not_not_intro sounds), fun _ => ⟨_, rfl⟩⟩
  · have notAbout := mt (isAboutTable_notFound_iff doctype name).1 sounds
    have failure : (notFound doctype name).failure =
        ⟨.other, (notFound doctype name).message⟩ := by
      rw [StoreError.failure, StoreError.diagnosis, if_neg notAbout]
      simp only [plainFailure, if_neg (trimmed_notFound doctype name)]
    exact ⟨iff_of_true failure sounds, fun soundsSo => absurd soundsSo sounds⟩

end RecordBook

/-! ## Fetching a missing record -/

/-- In a table without rows there is none to fetch. -/
theorem Database.select_of_noRows {database : Database} {selection : Selection} {table : Table}
    (readable : selection.frontOfMalformed? = none) (fetches : selection.wanted = .first)
    (found : database.table? selection.table = some table) (noRows : table.rows = []) :
    database.select selection = .ok [] := by
  rw [select, readable]
  simp only [found, Table.selected, noRows, fetches]
  rfl

/-- A record that is fetched and for which the selection has no row is missing. -/
theorem RecordBook.operationRows_of_missing {book : RecordBook} {given : Operation}
    {selection : Selection} {doctype name : String} (isDetails : given.kind? = some .details)
    (ofDoctype : given.parameters.doctype = some doctype)
    (ofName : given.parameters.name = some name)
    (made : Selection.ofOperation book.catalog given = .ok selection)
    (missing : book.database.select selection = .ok []) :
    book.operationRows given = .error (notFound doctype name) := by
  rw [operationRows, made, ofDoctype, ofName, isDetails]
  show (book.database.select selection >>= _) = _
  rw [missing]
  rfl

namespace Executor

variable {State : Type}

/-- An operation is not attempted again. -/
theorem nextPlan?_operation (executor : Executor State) (given : Operation) (error : StoreError) :
    executor.nextPlan? (.operation given) error = none := by
  cases again : executor.nextPlan? (.operation given) error with
  | none => rfl
  | some next =>
      obtain ⟨-, ⟨_, isQuery⟩, -⟩ := nextPlan?_inv again
      cases isQuery

/-- An operation that the store answers at once is executed by one call, and the result is that of
the call. -/
theorem execute_operation (executor : Executor State) (given : Operation) {world : World State}
    (goesOn : ¬ world.isCancelled = true) {outcome : Except StoreError (List Row)} {next : State}
    (atOnce : executor.store.run (.operation given) world.store = ({ outcome }, next)) :
    ∃ after, World.Called executor.store (.operation given) world after ∧
      executor.execute (.operation given) world =
        (.ok ⟨outcomeOf { outcome }, given.display, 1,
          [.pending, .executing, lastState { outcome }]⟩, after) := by
  have called := World.called_run executor.store (.operation given) world
  have sameReply : (world.run executor.store (.operation given)).1 = { outcome } :=
    congrArg Prod.fst atOnce
  rw [execute, attempt, if_neg goesOn]
  simp only [Plan.call]
  generalize world.run executor.store (.operation given) = ran at called sameReply
  obtain ⟨reply, settled⟩ := ran
  obtain rfl := sameReply
  have spent : settled.spend 0 = .ok (settled.pass 0) := by
    rw [World.spend, if_neg]
    cases settled.remaining <;> simp
  refine ⟨settled.pass 0, called.trans_idle (World.idle_pass 0 settled), ?_⟩
  simp only [spent]
  cases outcome with
  | ok rows => rfl
  | error error =>
      simp only [nextPlan?_operation]
      cases attemptsAllowed executor.settings - 1 <;> rfl

/-- **A missing record is reported as missing, unless its name sounds like a missing table.**

Let an accepted operation fetch a record of a record book by its name, and let its selection have no
row.  Execution that is not cancelled makes one call and ends with a failure after one attempt.  The
failure is another one than over a table, in the words of the store that name the record type and
the record, exactly when these two do not hold the words in which stores complain about tables.  If
they do, the failure is over a table name. -/
theorem execute_missing_iff (executor : Executor RecordBook) (parser : Sql.Parser)
    (given : Operation) (world : World RecordBook) (isBook : executor.store = .book)
    (goesOn : ¬ world.isCancelled = true) (isDetails : given.kind? = some .details)
    (accepted : Check.plan world.store.catalog (.operation given) parser = .ok ())
    (missing : ∀ selection, Selection.ofOperation world.store.catalog given = .ok selection →
      world.store.database.select selection = .ok []) :
    ∃ doctype name failure after, given.parameters.doctype = some doctype ∧
      given.parameters.name = some name ∧
      executor.execute (.operation given) world =
        (.ok ⟨.error failure, given.display, 1, [.pending, .executing, .failed]⟩, after) ∧
      after.calls = world.calls ++ [.operation given] ∧ after.store = world.store ∧
      (failure = ⟨.other, (RecordBook.notFound doctype name).message⟩ ↔
        ¬ SoundsLikeTable doctype name) ∧
      (SoundsLikeTable doctype name → ∃ table,
        failure = ⟨.incorrectTableName, unresolvedTable table⟩) := by
  obtain ⟨kind, doctype, entity, ofKind, ofDoctype, -, named, -⟩ :=
    Check.operation_eq_ok_iff.1 accepted
  obtain rfl := Option.some.inj (ofKind.symm.trans isDetails)
  obtain ⟨name, ofName⟩ : ∃ name, given.parameters.name = some name :=
    Option.ne_none_iff_exists'.1 fun unnamed => named ⟨rfl, unnamed⟩
  obtain ⟨selection, made⟩ := Selection.exists_ofOperation accepted
  have rows := RecordBook.operationRows_of_missing isDetails ofDoctype ofName made
    (missing selection made)
  have atOnce : executor.store.run (.operation given) world.store =
      ({ outcome := .error (RecordBook.notFound doctype name) }, world.store) := by
    rw [isBook, ← rows]
    rfl
  obtain ⟨after, called, executed⟩ := executor.execute_operation given goesOn atOnce
  obtain ⟨reported, misread⟩ := RecordBook.failure_notFound_iff doctype name
  refine ⟨doctype, name, _, after, ofDoctype, ofName, executed, called.calls, ?_, reported, misread⟩
  rw [called.store, atOnce]

/-- An executor for a record book of items. -/
def itemBookExecutor : Executor RecordBook where
  store := .book
  catalog := Check.itemCatalog
  settings := {}
  detected := []

/-- A record book of items that holds none. -/
def noItems : World RecordBook where
  store :=
    { catalog := Check.itemCatalog
      database := (Database.withTables {} Check.itemCatalog.entities).1 }

/-- The operation that fetches an item. -/
def itemDetails (name : String) : Operation where
  name := "get_document_details"
  parameters := { doctype := some "Item", name := some name }

theorem select_noItems (name : String) (selection : Selection)
    (made : Selection.ofOperation noItems.store.catalog (itemDetails name) = .ok selection) :
    noItems.store.database.select selection = .ok [] := by
  have isDetails : (itemDetails name).kind? = some .details :=
    (by decide +kernel : OperationKind.ofText? "get_document_details" = some .details)
  simp only [Selection.ofOperation, isDetails] at made
  obtain rfl := Except.ok.inj made
  obtain ⟨table, found, noRows⟩ : ∃ table,
      noItems.store.database.table? (tableNameOf "Item") = some table ∧ table.rows = [] :=
    ⟨_, rfl, rfl⟩
  exact Database.select_of_noRows rfl rfl found noRows

/-- An item that there is not is reported as missing. -/
theorem execute_missing_item :
    Check.plan noItems.store.catalog (.operation (itemDetails "ITEM-0009")) .byRules = .ok () ∧
      ∃ after, itemBookExecutor.execute (.operation (itemDetails "ITEM-0009")) noItems =
        (.ok ⟨.error ⟨.other, "Item 'ITEM-0009' not found"⟩, (itemDetails "ITEM-0009").display, 1,
          [.pending, .executing, .failed]⟩, after) := by
  have accepted : Check.plan noItems.store.catalog (.operation (itemDetails "ITEM-0009"))
      .byRules = .ok () :=
    rfl
  obtain ⟨doctype, name, failure, after, ofDoctype, ofName, executed, -, -, reported, -⟩ :=
    execute_missing_iff itemBookExecutor .byRules (itemDetails "ITEM-0009") noItems rfl
      (by decide) (by decide +kernel) accepted (select_noItems _)
  obtain rfl := Option.some.inj ofDoctype
  obtain rfl := Option.some.inj ofName
  have sayNothing : ¬ SoundsLikeTable "Item" "ITEM-0009" := by decide +kernel
  rw [reported.2 sayNothing] at executed
  exact ⟨accepted, after, executed⟩

/-- An item that there is not, with a name in the words of a store, is reported as a table. -/
theorem execute_missing_as_table :
    Check.plan noItems.store.catalog (.operation (itemDetails "no such table")) .byRules =
        .ok () ∧
      (∀ selection,
        Selection.ofOperation noItems.store.catalog (itemDetails "no such table") =
          .ok selection → noItems.store.database.select selection = .ok []) ∧
      ∃ after, itemBookExecutor.execute (.operation (itemDetails "no such table")) noItems =
        (.ok ⟨.error ⟨.incorrectTableName, unresolvedTable (some "no such table".toList)⟩,
          (itemDetails "no such table").display, 1, [.pending, .executing, .failed]⟩, after) := by
  have failure : (RecordBook.notFound "Item" "no such table").failure =
      ⟨.incorrectTableName, unresolvedTable (some "no such table".toList)⟩ := by
    decide +kernel
  have atOnce : itemBookExecutor.store.run (.operation (itemDetails "no such table"))
      noItems.store =
        ({ outcome := .error (RecordBook.notFound "Item" "no such table") }, noItems.store) :=
    rfl
  obtain ⟨after, -, executed⟩ := itemBookExecutor.execute_operation
    (itemDetails "no such table") (show ¬ noItems.isCancelled = true by decide) atOnce
  refine ⟨rfl, select_noItems _, after, executed.trans ?_⟩
  simp only [outcomeOf, lastState, failure]

end Executor

end Inquiry
