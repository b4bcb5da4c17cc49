import Inquiry.Execution.Attempts
import Inquiry.Proofs.Mentions
import Inquiry.Proofs.Quoting
import Inquiry.Proofs.TableNames
import Inquiry.Proofs.Trimming
import Inquiry.Store.Scripted
import Inquiry.Store.Table

/-!
# What complaints about tables name

A record store that misses a table says so in one of two wordings, and the
table is read off the words: what follows "no such table:", or what stands
between the first two single quotes.  A qualifier in front of it, up to the last
point, and the quotes around it are left out.  The references to that table are
then pointed elsewhere.

What is left out may belong to the name.  A point in the name of an entity ends
a qualifier, a single quote ends the table that is quoted, and a backtick or a
double quote at the end of the name is taken for one around it.  What remains
then is never a name of the entity again, because the key of a part is shorter
than the key of the whole, and the mark of tables in front of it cannot make up
for what is missing (`Diagnosis.meansKey_left_iff`).  So a complaint leads back
to the references to its table exactly when nothing of the name is cut off
(`Executor.leadsBack_iff`).
-/

set_option autoImplicit false

namespace Inquiry

open Inquiry.Text

namespace Diagnosis

/-! ## Qualifiers and quotes -/

/-- What is left of a table as it was written, without its qualifier and the quotes around it. -/
def left (written : List Char) : List Char := trimWhere Code.isMark (unqualified written)

/-- What stands in front of a point does not matter. -/
theorem unqualified_append_cons (front back : List Char) :
    unqualified (front ++ '.' :: back) = unqualified back := by
  have reversed : (front ++ '.' :: back).reverse = back.reverse ++ '.' :: front.reverse := by
    simp
  have stops : ('.' :: front.reverse).takeWhile (· != '.') = [] := rfl
  rw [unqualified, reversed, List.takeWhile_append, stops, unqualified]
  split
  case isTrue whole =>
    rw [(List.takeWhile_sublist _).eq_of_length whole, List.append_nil]
  case isFalse => rfl

/-- Without a point there is no qualifier. -/
theorem unqualified_of_notMem {name : List Char} (noPoint : '.' ∉ name) :
    unqualified name = name :=
  List.rtakeWhile_eq_self_iff.2 fun _ member =>
    bne_iff_ne.2 fun isPoint => noPoint (isPoint ▸ member)

theorem left_append_cons (front back : List Char) : left (front ++ '.' :: back) = left back := by
  rw [left, unqualified_append_cons, left]

/-- What is left stands somewhere in what was written. -/
theorem exists_around_left (written : List Char) :
    ∃ before after, written = before ++ left written ++ after := by
  obtain ⟨qualifier, whole⟩ := List.rtakeWhile_suffix (· != '.') written
  have named : unqualified written = (unqualified written).takeWhile Code.isMark ++
      (left written ++ ((unqualified written).dropWhile Code.isMark).rtakeWhile Code.isMark) := by
    have atEnd := List.rdropWhile_append_rtakeWhile (p := Code.isMark)
      (l := (unqualified written).dropWhile Code.isMark)
    exact List.takeWhile_append_dropWhile.symm.trans (congrArg _ atEnd.symm)
  replace whole : qualifier ++ unqualified written = written := whole
  refine ⟨qualifier ++ (unqualified written).takeWhile Code.isMark,
    ((unqualified written).dropWhile Code.isMark).rtakeWhile Code.isMark, ?_⟩
  rw [List.append_assoc, List.append_assoc, ← named, whole]

/-- Without a point, only the marks at the end of a table are left out. -/
theorem left_tableMark {name : List Char} (noPoint : '.' ∉ name) :
    left (tableMark ++ name) = tableMark ++ name.rdropWhile Code.isMark := by
  have marked : '.' ∉ tableMark ++ name := by simpa [tableMark] using noPoint
  rw [left, unqualified_of_notMem marked, Catalog.trimWhere_tableMark (by decide)]

/-! ## Keys -/

/-- A table that was named means a key, with the mark of tables in front or without it. -/
def MeansKey (key table : List Char) : Prop := keyOf table = tableMark ++ key ∨ keyOf table = key

/-- Quotes count in keys, and points do. -/
theorem keyOf_cons_of_mem {symbol : Char} (counts : symbol ∈ ['.', '`', '"', '\''])
    (rest : List Char) : keyOf (symbol :: rest) = symbol :: keyOf rest := by
  have kept : keyOf [symbol] = [symbol] := by
    simp only [List.mem_cons, List.not_mem_nil, or_false] at counts
    rcases counts with rfl | rfl | rfl | rfl <;> decide
  rw [← List.singleton_append, keyOf_append, kept, List.singleton_append]

/-- What stands in front of a text is not made up for by something else behind it. -/
theorem append_ne_append_cons {front : List Char} {symbol : Char} (absent : symbol ∉ front)
    (text rest : List Char) : front ++ text ≠ text ++ symbol :: rest := by
  intro same
  have swapped : (text ++ front).Perm (text ++ symbol :: rest) :=
    List.perm_append_comm.trans (.of_eq same)
  exact absent (((List.perm_append_left_iff text).1 swapped).mem_iff.2 (List.mem_cons_self ..))

/-- A table whose name goes on in front of a point is not left whole. -/
theorem not_meansKey_left_of_point {front back : List Char} (point : '.' ∈ front) :
    ¬ MeansKey (keyOf (front ++ back)) (left (tableMark ++ front)) := by
  obtain ⟨before, after, rfl⟩ := List.append_of_mem point
  obtain ⟨ahead, behind, whole⟩ := exists_around_left after
  have shorter := congrArg (fun text => (keyOf text).length) whole
  rw [← List.append_assoc, left_append_cons, MeansKey]
  simp only [keyOf_append, List.length_append] at shorter
  rintro (same | same) <;>
    · have lengths := congrArg List.length same
      simp only [keyOf_append, keyOf_cons_of_mem (show '.' ∈ ['.', '`', '"', '\''] by decide),
        List.length_append, List.length_cons] at lengths
      omega

/-- A table without its end means the key of the whole only if the end is nothing. -/
theorem meansKey_front_iff {kept lost : List Char}
    (counts : ∀ symbol ∈ lost.head?, symbol ∈ ['.', '`', '"', '\'']) :
    MeansKey (keyOf (kept ++ lost)) (tableMark ++ kept) ↔ lost = [] := by
  have ofMark : keyOf tableMark = tableMark := by decide
  rw [MeansKey, keyOf_append, keyOf_append, ofMark]
  cases lost with
  | nil => exact iff_of_true (.inl (congrArg _ (List.append_nil _).symm)) rfl
  | cons symbol rest =>
      have counts := counts symbol rfl
      refine iff_of_false ?_ (List.cons_ne_nil symbol rest)
      rw [keyOf_cons_of_mem counts]
      rintro (same | same)
      · have lengths := congrArg List.length same
        simp only [List.length_append, List.length_cons] at lengths
        omega
      · have absent : symbol ∉ tableMark := by
          simp only [List.mem_cons, List.not_mem_nil, or_false] at counts
          rcases counts with rfl | rfl | rfl | rfl <;> decide
        exact append_ne_append_cons absent _ _ same

/-- **What is left of a table means the key of its name exactly when nothing of the name is cut
off.**  The name is `front ++ back`, and it was cut in front of a single quote, if anywhere. -/
theorem meansKey_left_iff {front back : List Char} (cut : ∀ symbol ∈ back.head?, symbol = '\'') :
    MeansKey (keyOf (front ++ back)) (left (tableMark ++ front)) ↔
      '.' ∉ front ∧ back = [] ∧ ∀ last ∈ front.getLast?, Code.isMark last = false := by
  by_cases point : '.' ∈ front
  · exact iff_of_false (not_meansKey_left_of_point point) fun plain => plain.1 point
  have unmarked : (∀ last ∈ front.getLast?, Code.isMark last = false) ↔
      front.rtakeWhile Code.isMark = [] := by
    rw [List.rtakeWhile_eq_nil_iff]
    constructor
    · intro kept notEmpty isMark
      rw [kept _ (List.getLast?_eq_some_getLast notEmpty)] at isMark
      cases isMark
    · rintro kept last isLast
      obtain ⟨notEmpty, rfl⟩ := List.mem_getLast?_eq_getLast isLast
      exact Bool.eq_false_iff.2 (kept notEmpty)
  have counts : ∀ symbol ∈ (front.rtakeWhile Code.isMark ++ back).head?,
      symbol ∈ ['.', '`', '"', '\''] := by
    intro symbol isHead
    rw [List.head?_append] at isHead
    rcases Option.or_eq_some_iff.1 isHead with isHead | ⟨-, isHead⟩
    · have isMark := List.mem_rtakeWhile_imp (List.mem_of_mem_head? isHead)
      rcases Code.isMark_iff.1 isMark with rfl | rfl <;> decide
    · rw [cut symbol isHead]
      decide
  have parts : front ++ back =
      front.rdropWhile Code.isMark ++ (front.rtakeWhile Code.isMark ++ back) := by
    rw [← List.append_assoc, List.rdropWhile_append_rtakeWhile]
  rw [left_tableMark point, parts, meansKey_front_iff counts, List.append_eq_nil_iff, unmarked,
    and_comm, and_iff_right point]

/-! ## Names in messages -/

theorem announcement_eq : announcement = ['n', 'o', ' '] ++ "such table: ".toList := by decide

/-- A name without blanks is announced as a whole. -/
theorem announced?_announcement {name : List Char}
    (noBlank : ∀ symbol ∈ name, isBlank symbol = false) (notEmpty : name ≠ []) :
    announced? (announcement ++ name) = some name := by
  have found : announcement.isPrefixOf? (announcement ++ name) = some name :=
    Code.isPrefixOf?_eq_some_iff.2 rfl
  have whole : name.takeWhile (fun symbol => !isBlank symbol) = name :=
    List.takeWhile_eq_self_iff.2 fun symbol member => by simp [noBlank symbol member]
  have opened : announcement ++ name =
      'n' :: (['o', ' '] ++ "such table: ".toList ++ name) := by
    rw [announcement_eq]
    rfl
  rw [opened] at found ⊢
  rw [announced?, found]
  simp [whole, notEmpty]

theorem exists_of_isPrefix_announcement {text : List Char} (begins : announcement <+: text) :
    ∃ rest, text = 'n' :: 'o' :: ' ' :: rest := by
  obtain ⟨rest, rfl⟩ := begins
  exact ⟨"such table: ".toList ++ rest, by rw [announcement_eq]; rfl⟩

/-- Nothing is announced across a single quote in front of which there is no blank. -/
theorem announced?_append_quote {name : List Char}
    (noBlank : ∀ symbol ∈ name, isBlank symbol = false) (rest : List Char) :
    announced? (name ++ '\'' :: rest) = announced? rest := by
  have isQuote (rest : List Char) : announcement.isPrefixOf? ('\'' :: rest) = none := by
    rw [Code.isPrefixOf?_eq_none_iff]
    intro begins
    obtain ⟨_, ⟨⟩⟩ := exists_of_isPrefix_announcement begins
  induction name with
  | nil => rw [List.nil_append, announced?, isQuote]
  | cons symbol name ih =>
      rw [List.forall_mem_cons] at noBlank
      have notHere : announcement.isPrefixOf? (symbol :: (name ++ '\'' :: rest)) = none := by
        rw [Code.isPrefixOf?_eq_none_iff]
        intro begins
        obtain ⟨after, same⟩ := exists_of_isPrefix_announcement begins
        rcases name with _ | ⟨second, _ | ⟨third, name⟩⟩
        · cases same
        · cases same
        · simp only [List.cons_append, List.cons.injEq] at same
          have notBlank := noBlank.2 third (by simp)
          rw [same.2.2.1] at notBlank
          cases notBlank
      rw [List.cons_append, announced?, notHere]
      exact ih noBlank.2

/-- A text is followed by a point and more.  What is announced in it, if anything, ends in front of
the point or goes on to the next blank behind it. -/
theorem announced?_append_point {front : List Char} (noPoint : '.' ∉ front) (rest : List Char) :
    (announced? (front ++ ['.']) = none ∧ announced? (front ++ '.' :: rest) = announced? rest) ∨
      (∃ word, '.' ∉ word ∧ announced? (front ++ ['.']) = some word ∧
        announced? (front ++ '.' :: rest) = some word) ∨
      ∃ word, announced? (front ++ ['.']) = some (word ++ ['.']) ∧
        announced? (front ++ '.' :: rest) =
          some (word ++ '.' :: rest.takeWhile (fun next => !isBlank next)) := by
  have isPoint (rest : List Char) : announcement.isPrefixOf? ('.' :: rest) = none := by
    rw [Code.isPrefixOf?_eq_none_iff]
    intro begins
    obtain ⟨_, ⟨⟩⟩ := exists_of_isPrefix_announcement begins
  have goesOn (rest : List Char) : ('.' :: rest).takeWhile (fun next => !isBlank next) =
      '.' :: rest.takeWhile (fun next => !isBlank next) := rfl
  induction front with
  | nil =>
      left
      refine ⟨rfl, ?_⟩
      rw [List.nil_append, announced?, isPoint]
  | cons symbol front ih =>
      have ih := ih fun member => noPoint (List.mem_cons_of_mem _ member)
      have notPoint : '.' ∉ announcement := by rw [announcement_eq]; decide
      have here (rest : List Char) := Code.isPrefixOf?_append_cons notPoint (symbol :: front) rest
      simp only [List.cons_append] at here ⊢
      rw [announced?, announced?, here, here]
      cases found : announcement.isPrefixOf? (symbol :: front) with
      | none => exact ih
      | some after =>
          rw [Code.isPrefixOf?_eq_some_iff] at found
          simp only [Option.map_some, List.takeWhile_append, goesOn]
          by_cases noBlank : (after.takeWhile (fun next => !isBlank next)).length = after.length
          · exact .inr (.inr ⟨after, by simp [noBlank], by simp [noBlank]⟩)
          · simp only [if_neg noBlank]
            split
            case isTrue => exact ih
            case isFalse =>
              refine .inr (.inl ⟨_, fun inWord => noPoint ?_, rfl, rfl⟩)
              rw [found]
              exact List.mem_append_right _ (List.takeWhile_subset _ inWord)

/-- A single quote in a table ends what is quoted, as the one behind the table does. -/
theorem quoted?_missingTable {database : List Char} (noQuote : '\'' ∉ database)
    (table rest : List Char) :
    quoted? ("Table '".toList ++ (database ++ '.' :: (table ++ '\'' :: rest))) =
      some (database ++ '.' :: table.takeWhile (· != '\'')) := by
  obtain ⟨after, quoted⟩ : ∃ after,
      table ++ '\'' :: rest = table.takeWhile (· != '\'') ++ '\'' :: after := by
    have parts := List.takeWhile_append_dropWhile (p := (· != '\'')) (l := table)
    cases behind : table.dropWhile (· != '\'') with
    | nil =>
        rw [behind, List.append_nil] at parts
        exact ⟨rest, by rw [parts]⟩
    | cons symbol more =>
        have isQuote : symbol = '\'' := by
          have stops := List.head?_dropWhile_not (· != '\'') table
          rw [behind] at stops
          simpa using stops
        rw [behind, isQuote] at parts
        exact ⟨more ++ '\'' :: rest, by
          rw [← List.cons_append, ← List.append_assoc, parts]⟩
  have noQuoteAhead : '\'' ∉ database ++ '.' :: table.takeWhile (· != '\'') := by
    rw [List.mem_append, List.mem_cons]
    rintro (inDatabase | isPoint | inTable)
    · exact noQuote inDatabase
    · cases isPoint
    · have passes := List.mem_takeWhile_imp inTable
      cases passes
  have opened : ("Table '".toList ++ (database ++ '.' :: (table ++ '\'' :: rest))).dropWhile
      (· != '\'') = '\'' :: (database ++ '.' :: (table ++ '\'' :: rest)) := rfl
  have whole : database ++ '.' :: (table ++ '\'' :: rest) =
      (database ++ '.' :: table.takeWhile (· != '\'')) ++ '\'' :: after := by
    rw [quoted, List.append_assoc, List.cons_append]
  rw [quoted?, opened, whole]
  simp only [Code.closedBody?_append_cons noQuoteAhead, Option.map_some]

/-- The table that is named where a database misses one: the table up to a single quote in it, or
what is announced in the name of the database, if anything is. -/
theorem namedTable?_missingTable {database table : List Char} (noQuote : '\'' ∉ database)
    (noPoint : '.' ∉ database) (noBlank : ∀ symbol ∈ table, isBlank symbol = false) :
    let named := namedTable? ("Table '".toList ++
      (database ++ '.' :: (table ++ '\'' :: " doesn't exist".toList)))
    (announced? (database ++ ['.']) = none ∧ named = some (left (table.takeWhile (· != '\'')))) ∨
      (∃ word, '.' ∉ word ∧ announced? (database ++ ['.']) = some word ∧
        named = some (left word)) ∨
      ∃ word, announced? (database ++ ['.']) = some (word ++ ['.']) ∧
        named = some (left (table ++ ['\''])) := by
  intro named
  have nothing : announced? " doesn't exist".toList = none := by decide
  have stops : (table ++ '\'' :: " doesn't exist".toList).takeWhile (fun next => !isBlank next) =
      table ++ ['\''] := by
    rw [List.takeWhile_append_of_pos fun symbol member => by simp [noBlank symbol member]]
    rfl
  have named_eq : named = ((announced? (database ++ '.' :: (table ++
      '\'' :: " doesn't exist".toList))).or (some (database ++ '.' ::
        table.takeWhile (· != '\'')))).map left := by
    rw [← quoted?_missingTable noQuote table " doesn't exist".toList]
    rfl
  rcases announced?_append_point noPoint (table ++ '\'' :: " doesn't exist".toList) with
    ⟨none, ofRest⟩ | ⟨word, inWord, announced, ofRest⟩ | ⟨word, announced, ofRest⟩
  · refine .inl ⟨none, ?_⟩
    rw [named_eq, ofRest, announced?_append_quote noBlank, nothing, Option.none_or,
      Option.map_some, left_append_cons]
  · refine .inr (.inl ⟨word, inWord, announced, ?_⟩)
    rw [named_eq, ofRest, Option.some_or, Option.map_some]
  · refine .inr (.inr ⟨word, announced, ?_⟩)
    rw [named_eq, ofRest, stops, Option.some_or, Option.map_some, left_append_cons]

/-- A table that is read on to the quote behind it does not mean the key of its name. -/
theorem not_meansKey_left_quote (name : List Char) :
    ¬ MeansKey (keyOf name) (left (tableMark ++ (name ++ ['\'']))) := by
  have ofQuote : keyOf ['\''] = ['\''] := by decide
  have ofPoint (rest : List Char) : keyOf ('.' :: rest) = '.' :: keyOf rest :=
    keyOf_cons_of_mem (by decide) rest
  by_cases point : '.' ∈ name
  · obtain ⟨before, after, rfl⟩ := List.append_of_mem point
    obtain ⟨ahead, behind, whole⟩ := exists_around_left (after ++ ['\''])
    replace whole := congrArg keyOf whole
    simp only [keyOf_append, ofQuote] at whole
    have sizes := congrArg List.length whole
    rw [List.append_assoc, List.cons_append, ← List.append_assoc, left_append_cons, MeansKey,
      keyOf_append, ofPoint]
    rintro (same | same)
    · rw [same] at sizes
      simp only [List.length_append, List.length_cons, List.length_nil] at sizes
      have ofMark : tableMark.length = 3 := rfl
      omega
    · rw [same] at sizes
      simp only [List.length_append, List.length_cons, List.length_nil] at sizes
      have none : keyOf ahead = [] ∧ keyOf before = [] ∧ keyOf behind = [] := by
        simp only [← List.length_eq_zero_iff]
        omega
      rw [same, none.1, none.2.1, none.2.2] at whole
      simp only [List.nil_append, List.append_nil] at whole
      have absent : '\'' ∉ ['.'] := by decide
      exact append_ne_append_cons absent _ _ whole.symm
  · have pointless : '.' ∉ name ++ ['\''] := by simpa using point
    rw [left_tableMark pointless, List.rdropWhile_concat_neg _ _ _ (by decide), MeansKey]
    rintro (same | same) <;>
      · have longer := congrArg List.length same
        simp only [keyOf_append, ofQuote, List.length_append, List.length_cons] at longer
        have ofMark : (keyOf tableMark).length = tableMark.length := by decide
        omega

end Diagnosis

/-! ## Complaints and references -/

/-- The complaint of a database, given by its name, that it has no such table. -/
def RecordStore.missingTableOf (database table : String) : StoreError :=
  ⟨"1146", "Table '" ++ database ++ "." ++ table ++ "' doesn't exist"⟩

theorem RecordStore.toList_missingTableOf (database table : String) :
    (missingTableOf database table).message.toList = "Table '".toList ++
      (database.toList ++ '.' :: (table.toList ++ '\'' :: " doesn't exist".toList)) := by
  simp [missingTableOf]

namespace Diagnosis

/-- A complaint keeps a name whole: no point in it ends a qualifier, and no mark at its end is taken
for one around it. -/
def KeepsWhole (name : List Char) : Prop :=
  '.' ∉ name ∧ ∀ last ∈ name.getLast?, Code.isMark last = false

instance (name : List Char) : Decidable (KeepsWhole name) :=
  decidable_of_iff ('.' ∉ name ∧ name.getLast?.all (! Code.isMark ·) = true)
    (by simp [KeepsWhole, Option.all_eq_true])

end Diagnosis

namespace Executor

open Diagnosis

variable {catalog : Catalog} {entity : Entity} {reference : Code.Reference}

/-- A complaint leads back to a reference: it is taken for one about a table that does not exist,
and the table that it names is that of the reference. -/
def LeadsBack (error : StoreError) (reference : Code.Reference) : Prop :=
  error.diagnosis.kind = .incorrectTableName ∧
    error.diagnosis.table.any (names · reference) = true

instance (error : StoreError) (reference : Code.Reference) :
    Decidable (LeadsBack error reference) :=
  inferInstanceAs (Decidable (_ ∧ _))

/-- A named table is that of a reference when it means the key of the entity. -/
theorem names_iff (means : reference.entity? catalog = some entity) (table : List Char) :
    names table reference = true ↔ MeansKey entity.key table := by
  have ofMark : keyOf tableMark = tableMark := by decide
  rw [names, MeansKey, keyOf_append, ofMark, (Catalog.of_resolve? means).2.1, Bool.or_eq_true,
    decide_eq_true_eq, decide_eq_true_eq, eq_comm, @eq_comm _ (keyOf reference.identifier)]

/-- An error with a code for tables leads back to a reference when the table that its message names
means the key of the entity. -/
theorem leadsBack_of_code {error : StoreError} {table : List Char}
    (means : reference.entity? catalog = some entity) (code : error.code ∈ tableCodes)
    (named : namedTable? error.message.toList = some table) :
    LeadsBack error reference ↔ MeansKey entity.key table := by
  have about : isAboutTable error = true := by
    rw [isAboutTable, List.contains_iff_mem.2 code, Bool.true_or, Bool.true_or]
  rw [LeadsBack, StoreError.diagnosis, if_pos about, named]
  simp [names_iff means]

theorem notBlank_of_mem_tableName (entity : Entity) :
    ∀ symbol ∈ entity.tableName.toList, isBlank symbol = false := by
  intro symbol member
  rw [toList_tableName, List.mem_append] at member
  rcases member with inMark | inName
  · exact Code.noBlank_tableMark symbol inMark
  · simpa using (List.mem_filter.1 inName).2

/-- A store without databases leads back to a reference where the name of its entity is kept
whole. -/
theorem leadsBack_noSuchTable_iff (means : reference.entity? catalog = some entity) :
    LeadsBack (Database.noSuchTable entity.tableName) reference ↔ KeepsWhole entity.shortName := by
  have notEmpty : entity.tableName.toList ≠ [] := by
    rw [toList_tableName]
    exact List.append_ne_nil_of_left_ne_nil (by decide) _
  have message : (Database.noSuchTable entity.tableName).message.toList =
      announcement ++ entity.tableName.toList := String.toList_append
  have isCode : (Database.noSuchTable entity.tableName).code ∈ tableCodes := by
    simp [Database.noSuchTable, tableCodes]
  have named : namedTable? (Database.noSuchTable entity.tableName).message.toList =
      some (left (tableMark ++ entity.shortName)) := by
    rw [namedTable?, message,
      announced?_announcement (notBlank_of_mem_tableName entity) notEmpty, Option.some_or,
      Option.map_some, toList_tableName]
    rfl
  have whole := @meansKey_left_iff entity.shortName [] nofun
  rw [List.append_nil, keyOf_shortName] at whole
  rw [leadsBack_of_code means isCode named, whole, and_iff_right rfl]
  rfl

/-- The table of an entity up to a single quote means the entity where there is no such quote and
the name is kept whole. -/
theorem meansKey_takeWhile_iff (entity : Entity) :
    MeansKey entity.key (left (entity.tableName.toList.takeWhile (· != '\''))) ↔
      '\'' ∉ entity.shortName ∧ KeepsWhole entity.shortName := by
  have ofMark : entity.tableName.toList.takeWhile (· != '\'') =
      tableMark ++ entity.shortName.takeWhile (· != '\'') := by
    rw [toList_tableName]
    rfl
  have cut : ∀ symbol ∈ (entity.shortName.dropWhile (· != '\'')).head?, symbol = '\'' := by
    intro symbol isHead
    have stops := List.head?_dropWhile_not (· != '\'') entity.shortName
    rw [isHead] at stops
    simpa using stops
  have iff : MeansKey (keyOf (entity.shortName.takeWhile (· != '\'') ++
        entity.shortName.dropWhile (· != '\'')))
      (left (tableMark ++ entity.shortName.takeWhile (· != '\''))) ↔ _ := meansKey_left_iff cut
  rw [List.takeWhile_append_dropWhile, keyOf_shortName, List.dropWhile_eq_nil_iff] at iff
  have noQuote : (∀ symbol ∈ entity.shortName, (symbol != '\'') = true) ↔
      '\'' ∉ entity.shortName :=
    ⟨fun passes member => by simpa using passes _ member,
      fun absent symbol member => bne_iff_ne.2 fun isQuote => absent (isQuote ▸ member)⟩
  rw [ofMark, iff, noQuote, KeepsWhole]
  constructor
  · rintro ⟨noPoint, absent, noMark⟩
    rw [List.takeWhile_eq_self_iff.2 (noQuote.2 absent)] at noPoint noMark
    exact ⟨absent, noPoint, noMark⟩
  · rintro ⟨absent, noPoint, noMark⟩
    rw [List.takeWhile_eq_self_iff.2 (noQuote.2 absent)]
    exact ⟨noPoint, absent, noMark⟩

/-- Where a database complains, the single quotes of a name are in the way besides. -/
theorem leadsBack_missingTableOf_iff (means : reference.entity? catalog = some entity)
    {database : String} (noQuote : '\'' ∉ database.toList) (noPoint : '.' ∉ database.toList) :
    (announced? (database.toList ++ ['.']) = none →
      (LeadsBack (RecordStore.missingTableOf database entity.tableName) reference ↔
        '\'' ∉ entity.shortName ∧ KeepsWhole entity.shortName)) ∧
      ∀ word, announced? (database.toList ++ ['.']) = some word →
        (LeadsBack (RecordStore.missingTableOf database entity.tableName) reference ↔
          '.' ∉ word ∧ MeansKey entity.key (left word)) := by
  have isCode : (RecordStore.missingTableOf database entity.tableName).code ∈ tableCodes := by
    simp [RecordStore.missingTableOf, tableCodes]
  have named := namedTable?_missingTable noQuote noPoint (notBlank_of_mem_tableName entity)
  rw [← RecordStore.toList_missingTableOf] at named
  rcases named with ⟨none, named⟩ | ⟨word, inWord, announced, named⟩ | ⟨word, announced, named⟩
  · rw [none, leadsBack_of_code means isCode named, meansKey_takeWhile_iff]
    exact ⟨fun _ => Iff.rfl, nofun⟩
  · rw [announced, leadsBack_of_code means isCode named]
    refine ⟨nofun, ?_⟩
    rintro _ ⟨⟩
    rw [and_iff_right inWord]
  · rw [announced, leadsBack_of_code means isCode named]
    refine ⟨nofun, ?_⟩
    rintro _ ⟨⟩
    have notMeant := not_meansKey_left_quote entity.shortName
    rw [keyOf_shortName] at notMeant
    rw [toList_tableName, List.append_assoc]
    exact iff_of_false notMeant fun inWord => inWord.1 (List.mem_append_right _ (by simp))

/-- What a piece of code becomes when the rejected references are pointed at a table. -/
def pointedAt (target : String) (table : Option (List Char)) : Code.Piece → List Char :=
  Code.Piece.replaced fun reference => if isRejected table reference then some target else none

/-- A complaint that leads back to a reference has the reference replaced. -/
theorem LeadsBack.pointedAt_eq {error : StoreError} (leads : LeadsBack error reference)
    (target : String) :
    pointedAt target error.diagnosis.table (.reference reference) =
      (quotedTable target).toList := by
  have rejected : isRejected error.diagnosis.table reference = true := by
    rw [isRejected, leads.2, Bool.or_true]
  rw [pointedAt, Code.Piece.replaced, if_pos rejected, toList_quotedTable]

/-- A reference of code stands among the pieces of the code. -/
theorem exists_pieces_eq {code : List Char} (inCode : reference ∈ Code.scan catalog code) :
    ∃ front back, Code.pieces catalog code = front ++ .reference reference :: back := by
  obtain ⟨piece, member, isReference⟩ := List.mem_filterMap.1 inCode
  cases piece with
  | kept characters => cases isReference
  | reference other =>
      cases isReference
      exact List.append_of_mem member

/-- **When a complaint about the table of an entity leads back to the references to it.**

A store without databases announces the table as a whole, and the complaint leads back to every
reference exactly when the name without blanks holds no point and does not end in a backtick or a
double quote.  Where a database complains, the name must hold no single quote besides; but the name
of the database may itself read as an announcement, and then it is the word announced there that
has to mean the entity.  A reference that a complaint leads back to is replaced. -/
theorem leadsBack_iff {code : List Char} (inCode : reference ∈ Code.scan catalog code)
    (means : reference.entity? catalog = some entity) :
    (LeadsBack (Database.noSuchTable entity.tableName) reference ↔ KeepsWhole entity.shortName) ∧
      (∀ database : String, '\'' ∉ database.toList → '.' ∉ database.toList →
        (announced? (database.toList ++ ['.']) = none →
          (LeadsBack (RecordStore.missingTableOf database entity.tableName) reference ↔
            '\'' ∉ entity.shortName ∧ KeepsWhole entity.shortName)) ∧
        ∀ word, announced? (database.toList ++ ['.']) = some word →
          (LeadsBack (RecordStore.missingTableOf database entity.tableName) reference ↔
            '.' ∉ word ∧ MeansKey entity.key (left word))) ∧
      ∃ front back, Code.pieces catalog code = front ++ .reference reference :: back ∧
        ∀ (error : StoreError) (target : String), LeadsBack error reference →
          Correction.retarget catalog target (isRejected error.diagnosis.table) code =
            front.flatMap (pointedAt target error.diagnosis.table) ++ (quotedTable target).toList ++
              back.flatMap (pointedAt target error.diagnosis.table) := by
  refine ⟨leadsBack_noSuchTable_iff means,
    fun database noQuote noPoint => leadsBack_missingTableOf_iff means noQuote noPoint, ?_⟩
  obtain ⟨front, back, cut⟩ := exists_pieces_eq inCode
  refine ⟨front, back, cut, ?_⟩
  intro error target leads
  have whole : Correction.retarget catalog target (isRejected error.diagnosis.table) code =
      (Code.pieces catalog code).flatMap (pointedAt target error.diagnosis.table) := rfl
  rw [whole, cut, List.flatMap_append, List.flatMap_cons, leads.pointedAt_eq, List.append_assoc]

/-- Record types with an ordinary name, with a single quote and with a point in their names. -/
def oddlyNamed : Catalog where
  entities :=
    [{ name := "Driver", fields := [] }, { name := "Driver's License", fields := [] },
      { name := "Vol. Discount", fields := [] }]
  ordered := by decide +kernel
  distinct := by decide +kernel
  named := by decide +kernel

/-- Both complaints about the table of drivers lead back to the reference to it, and another table
is put in its place. -/
theorem leadsBack_iff_driver :
    ∃ reference, Code.scan oddlyNamed "FROM tabDriver".toList = [reference] ∧
      reference.entity? oddlyNamed = some { name := "Driver", fields := [] } ∧
      LeadsBack (Database.noSuchTable "tabDriver") reference ∧
      LeadsBack (RecordStore.missingTableOf "erp" "tabDriver") reference ∧
      ∃ before after, Correction.retarget oddlyNamed "tabItem"
        (isRejected (Database.noSuchTable "tabDriver").diagnosis.table) "FROM tabDriver".toList =
          before ++ "`tabItem`".toList ++ after := by
  have scanned : Code.scan oddlyNamed "FROM tabDriver".toList =
      [⟨⟨5, 14⟩, .bare "Driver".toList⟩] := by
    decide +kernel
  have means : Code.Reference.entity? oddlyNamed ⟨⟨5, 14⟩, .bare "Driver".toList⟩ =
      some { name := "Driver", fields := [] } := by
    decide +kernel
  obtain ⟨announced, quoted, front, back, -, replaces⟩ :=
    leadsBack_iff (scanned ▸ List.mem_singleton_self _) means
  have leads := announced.2 (by decide +kernel)
  have leadsQuoted := ((quoted "erp" (by decide) (by decide)).1 (by decide)).2 (by decide +kernel)
  exact ⟨_, scanned, means, leads, leadsQuoted, _, _, replaces _ "tabItem" leads⟩

/-- A point in a name, and a single quote where the table is quoted, keep complaints from leading
back to the references that they are about. -/
theorem not_leadsBack_oddlyNamed :
    (∃ reference, Code.scan oddlyNamed "FROM `tabVol. Discount`".toList = [reference] ∧
      reference.entity? oddlyNamed = some { name := "Vol. Discount", fields := [] } ∧
      ¬ LeadsBack (Database.noSuchTable "tabVol.Discount") reference ∧
      ¬ LeadsBack (RecordStore.missingTableOf "erp" "tabVol.Discount") reference) ∧
    ∃ reference, Code.scan oddlyNamed "FROM `tabDriver's License`".toList = [reference] ∧
      reference.entity? oddlyNamed = some { name := "Driver's License", fields := [] } ∧
      ¬ LeadsBack (RecordStore.missingTableOf "erp" "tabDriver'sLicense") reference := by
  refine ⟨⟨⟨⟨5, 23⟩, .backtick "Vol. Discount".toList⟩, ?_, ?_, ?_, ?_⟩,
    ⟨⟨5, 26⟩, .backtick "Driver's License".toList⟩, ?_, ?_, ?_⟩ <;> decide +kernel

end Executor

end Inquiry
