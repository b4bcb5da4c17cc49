import Inquiry.Proofs.StatementWords
import Inquiry.Proofs.TableNames

/-!
# Columns of an entity

The fields of an entity are looked up in two ways.  A plan is checked against
`Entity.field?`, where an own field comes before a standard one of its name.  The
record store makes a table with the standard columns first and leaves out own
fields that are named like one of these.  What the table has is read off the
text of the statement that creates it, whatever quotes and commas the names in
it hold (`Entity.declared_eq`).

The two views agree as long as the own fields keep to themselves.  Names that
differ in nothing but case become two columns of one name, for the store does
not regard case; and an own field that is named like a standard one is checked
by its own type and kept by that of the standard field.  These are the only ways
for the views to part (`Catalog.declares_iff`).
-/

set_option autoImplicit false

namespace Inquiry

/-! ## What a statement declares -/

namespace StatementWord

/-- The columns that words declare: a quoted name with a plain word after it is a column with its
type. -/
def declaredColumns : List (WordKind × List Char) → List (String × String)
  | (.doubtful name, _) :: (.plain, type) :: rest =>
      (name, String.ofList type) :: declaredColumns rest
  | _ :: rest => declaredColumns rest
  | [] => []

/-- What follows a declaration: a comma, or the end of the statement. -/
def endings : List (List Char) := [[','], [')', ';']]

/-- A declaration declares its column, whatever follows. -/
theorem declaredColumns_declaration (column : Column) {ending : List Char}
    (isEnding : ending ∈ endings) {rest : List Char} (apart : Apart rest) :
    declaredColumns (wordsOf (column.declaration.toList ++ (ending ++ rest))) =
      (column.name, column.type.word) :: declaredColumns (wordsOf rest) := by
  obtain ⟨name, type, required, isKey⟩ := column
  obtain ⟨asked, written, unquoted, plain⟩ : ∃ asked : List Char,
      (Column.declaration ⟨name, type, required, isKey⟩).toList =
        (quotedName name).toList ++ ' ' :: asked ∧
      (∀ symbol ∈ ' ' :: asked ++ ending, isQuote symbol = false) ∧
      ∀ words, declaredColumns ((.doubtful name, (quotedName name).toList) ::
          (wordsOf (' ' :: asked ++ ending) ++ words)) =
        (name, type.word) :: declaredColumns words := by
    refine ⟨type.word.toList ++ (if isKey then " PRIMARY KEY" else "").toList ++
      (if required then " NOT NULL DEFAULT 0" else "").toList, ?_, ?_⟩
    · simp [Column.declaration]
    · simp only [endings, List.mem_cons, List.not_mem_nil, or_false] at isEnding
      rcases isEnding with rfl | rfl <;> cases type <;> cases required <;> cases isKey <;>
        exact ⟨unquoted_of_all rfl, fun words => rfl⟩
  have shape : (quotedName name).toList ++ ' ' :: asked ++ (ending ++ rest) =
      (quotedName name).toList ++ ((' ' :: asked ++ ending) ++ rest) := by
    simp only [List.append_assoc, List.cons_append]
  have afterName : Apart ((' ' :: asked ++ ending) ++ rest) := apart_blank _
  rw [written, shape, wordsOf_quotedName name afterName, wordsOf_append unquoted apart]
  exact plain (wordsOf rest)

/-- Declarations with commas between declare their columns in turn. -/
theorem declaredColumns_declarations (first : Column) (others : List Column) :
    declaredColumns (wordsOf (", ".toList.intercalate
      ((first :: others).map (·.declaration.toList)) ++ [')', ';'])) =
      (first :: others).map fun column => (column.name, column.type.word) := by
  induction others generalizing first with
  | nil =>
      have last := declaredColumns_declaration first
        (show [')', ';'] ∈ endings by decide) apart_nil
      simpa [declaredColumns] using last
  | cons second others ih =>
      have start := declaredColumns_declaration first (show [','] ∈ endings by decide)
        (apart_blank (", ".toList.intercalate
          ((second :: others).map (·.declaration.toList)) ++ [')', ';']))
      rw [wordsOf_blank (by decide), ih] at start
      simpa [List.intercalate_cons_cons] using start

end StatementWord

namespace Entity

/-- The columns that the statement for the table of an entity declares, each with its type. -/
def declared (entity : Entity) : List (String × String) :=
  StatementWord.declaredColumns (StatementWord.wordsOf entity.creation.toList)

theorem toList_creation (entity : Entity) :
    entity.creation.toList = "CREATE TABLE IF NOT EXISTS ".toList ++
      ((quotedName entity.tableName).toList ++ (" (".toList ++
        (", ".toList.intercalate (entity.columns.map (·.declaration.toList)) ++
          ");".toList))) := by
  unfold creation
  generalize "CREATE TABLE IF NOT EXISTS " = start
  simp only [commaList, String.toList_append, String.toList_intercalate, List.map_map,
    Function.comp_def, List.append_assoc]

/-- **The statement declares the columns of the entity and nothing else.** -/
theorem declared_eq (entity : Entity) :
    entity.declared = entity.columns.map fun column => (column.name, column.type.word) := by
  obtain ⟨first, others, isColumns⟩ : ∃ first others, entity.columns = first :: others :=
    List.exists_cons_of_ne_nil (by simp [columns, standardColumns])
  have start : "CREATE TABLE IF NOT EXISTS ".toList =
      "CREATE TABLE IF NOT EXISTS".toList ++ [' '] := by decide
  have opened (text : List Char) :
      StatementWord.wordsOf (" (".toList ++ text) = (.sign, ['(']) :: StatementWord.wordsOf text :=
    (StatementWord.wordsOf_blank (by decide) _).trans (StatementWord.wordsOf_cons (by decide) _)
  have fixed : StatementWord.wordsOf "CREATE TABLE IF NOT EXISTS".toList =
      ["CREATE", "TABLE", "IF", "NOT", "EXISTS"].map fun word => (.plain, word.toList) := by
    decide
  have tableNamed (text : List Char) : StatementWord.wordsOf
      ((quotedName entity.tableName).toList ++ (" (".toList ++ text)) = (.doubtful entity.tableName,
        (quotedName entity.tableName).toList) :: (.sign, ['(']) :: StatementWord.wordsOf text := by
    have apart : StatementWord.Apart (" (".toList ++ text) := StatementWord.apart_blank _
    rw [StatementWord.wordsOf_quotedName _ apart, opened]
  have started (text : List Char) : StatementWord.wordsOf
      ("CREATE TABLE IF NOT EXISTS ".toList ++ text) =
        (["CREATE", "TABLE", "IF", "NOT", "EXISTS"].map fun word => (.plain, word.toList)) ++
          StatementWord.wordsOf text := by
    have apart : StatementWord.Apart ([' '] ++ text) := StatementWord.apart_blank _
    rw [start, List.append_assoc,
      StatementWord.wordsOf_append (StatementWord.unquoted_of_all rfl) apart, fixed,
      List.singleton_append, StatementWord.wordsOf_blank (by decide)]
  rw [declared, toList_creation, isColumns, started, tableNamed]
  exact StatementWord.declaredColumns_declarations first others

/-! ## Names -/

/-- The own fields that are not named exactly like a standard one. -/
def ownFields (entity : Entity) : List Field :=
  entity.fields.filter fun field => !isStandardField field.name

/-- The statement declares no two columns whose names differ in nothing but case. -/
def DeclaresApart (entity : Entity) : Prop :=
  entity.declared.Pairwise fun first second => ¬ sameName first.1 second.1

/-- Own fields that are not named exactly like a standard one differ from all standard ones, and
from each other, in more than case. -/
def NamesApart (entity : Entity) : Prop :=
  (entity.ownFields.Pairwise fun first second => ¬ sameName first.name second.name) ∧
    ∀ standard ∈ standardFields, ∀ field ∈ entity.ownFields, ¬ sameName standard.1 field.name

instance (entity : Entity) : Decidable entity.NamesApart :=
  inferInstanceAs (Decidable (_ ∧ _))

/-- The columns of standard fields have their names and types. -/
theorem map_standardColumns :
    (standardColumns.map fun column => (column.name, column.type.word)) =
      standardFields.map fun standard => (standard.1, standard.2.columnType.word) := rfl

/-- What is declared, in terms of fields: the standard ones, then the own ones. -/
theorem declared_eq_append (entity : Entity) :
    entity.declared =
      (standardFields.map fun standard => (standard.1, standard.2.columnType.word)) ++
        entity.ownFields.map fun field => (field.name, field.type.columnType.word) := by
  rw [declared_eq, columns, List.map_append, map_standardColumns, List.map_map]
  rfl

theorem declaresApart_iff (entity : Entity) : entity.DeclaresApart ↔ entity.NamesApart := by
  have standardApart : standardFields.Pairwise fun first second => ¬ sameName first.1 second.1 := by
    decide
  simp only [DeclaresApart, NamesApart, declared_eq_append, List.pairwise_append,
    List.pairwise_map, List.forall_mem_map, standardApart, true_and]

/-- No column has the name of an earlier one exactly when all names differ. -/
theorem duplicateColumn?_eq_none_iff {earlier columns : List Column} :
    duplicateColumn? earlier columns = none ↔
      (∀ other ∈ earlier, ∀ column ∈ columns, ¬ sameName other.name column.name) ∧
        columns.Pairwise fun first second => ¬ sameName first.name second.name := by
  induction columns generalizing earlier with
  | nil => simp [duplicateColumn?]
  | cons column rest ih =>
      rw [duplicateColumn?]
      split
      case isTrue isRepeated =>
        obtain ⟨other, member, same⟩ := List.any_eq_true.1 isRepeated
        refine iff_of_false nofun fun apart => ?_
        exact apart.1 other member column (List.mem_cons_self ..) same
      case isFalse isNew =>
        rw [Bool.not_eq_true, List.any_eq_false] at isNew
        simp only [ih, List.forall_mem_append, List.forall_mem_singleton, List.forall_mem_cons,
          List.pairwise_cons]
        constructor
        · rintro ⟨⟨apart, fromColumn⟩, later⟩
          exact ⟨fun other member => ⟨isNew other member, apart other member⟩, fromColumn, later⟩
        · rintro ⟨apart, fromColumn, later⟩
          exact ⟨⟨fun other member => (apart other member).2, fromColumn⟩, later⟩

/-- **The store can make the table of an entity exactly when the names of its fields are apart.** -/
theorem emptyTable_isOk_iff (entity : Entity) :
    entity.emptyTable.isOk ↔ entity.NamesApart := by
  have none_iff : duplicateColumn? [] entity.columns = none ↔ entity.NamesApart := by
    rw [duplicateColumn?_eq_none_iff, ← declaresApart_iff, DeclaresApart, declared_eq,
      List.pairwise_map]
    exact and_iff_right nofun
  rw [← none_iff, emptyTable]
  split
  case h_1 column found => simp [found, Except.isOk, Except.toBool]
  case h_2 notFound => simp [notFound, Except.isOk, Except.toBool]

theorem name_of_emptyTable (entity : Entity) {table : Table}
    (made : entity.emptyTable = .ok table) : table.name = entity.tableName := by
  rw [emptyTable] at made
  split at made
  · cases made
  · cases made
    rfl

/-! ## Types -/

/-- Every field that a name stands for has a column of this name and of its type. -/
def DeclaresFields (entity : Entity) : Prop :=
  ∀ name field, entity.field? name = some field →
    (name, field.type.columnType.word) ∈ entity.declared

/-- The first own field that is named exactly like a standard one has its column type. -/
def KeepsTypes (entity : Entity) : Prop :=
  ∀ standard ∈ standardFields,
    ∀ field ∈ entity.fields.find? (fun field => field.name = standard.1),
      field.type.columnType = standard.2.columnType

instance (entity : Entity) : Decidable entity.KeepsTypes :=
  inferInstanceAs (Decidable (∀ _ ∈ _, _))

theorem isStandardField_iff {name : String} :
    isStandardField name ↔ ∃ type, (name, type) ∈ standardFields := by
  simp [isStandardField]

theorem eq_of_mem_standardFields {name : String} {first second : FieldType}
    (isFirst : (name, first) ∈ standardFields) (isSecond : (name, second) ∈ standardFields) :
    first = second := by
  have checked : ∀ one ∈ standardFields, ∀ other ∈ standardFields,
      one.1 = other.1 → one.2 = other.2 := by decide
  exact checked _ isFirst _ isSecond rfl

theorem mem_ownFields_iff {entity : Entity} {field : Field} :
    field ∈ entity.ownFields ↔ field ∈ entity.fields ∧ ¬ isStandardField field.name := by
  simp [ownFields]

/-- What a statement declares is a standard field, or an own one that is not named like one. -/
theorem mem_declared_iff {entity : Entity} {name type : String} :
    (name, type) ∈ entity.declared ↔
      (∃ kind, (name, kind) ∈ standardFields ∧ kind.columnType.word = type) ∨
        ∃ field ∈ entity.ownFields, field.name = name ∧ field.type.columnType.word = type := by
  simp [declared_eq_append]

theorem mem_standardFields_of_standardField? {name : String} {field : Field}
    (found : standardField? name = some field) : (name, field.type) ∈ standardFields := by
  obtain ⟨standard, isFound, rfl⟩ := Option.map_eq_some_iff.1 found
  have isName : standard.1 = name := by simpa using List.find?_some isFound
  exact isName ▸ List.mem_of_find?_eq_some isFound

theorem hasField_of_isStandardField (entity : Entity) {name : String}
    (isStandard : isStandardField name) : entity.hasField name := by
  rw [hasField, field?]
  split
  · rfl
  · rw [standardField?, Option.isSome_map, List.find?_isSome]
    exact List.any_eq_true.1 isStandard

/-- **A name stands for a field exactly when the statement declares a column of just this name.** -/
theorem hasField_iff (entity : Entity) (name : String) :
    entity.hasField name ↔ ∃ type, (name, type) ∈ entity.declared := by
  simp only [mem_declared_iff]
  constructor
  · intro known
    obtain ⟨field, found⟩ := Option.isSome_iff_exists.1 known
    by_cases isStandard : isStandardField name
    · obtain ⟨kind, member⟩ := isStandardField_iff.1 isStandard
      exact ⟨_, .inl ⟨kind, member, rfl⟩⟩
    · rw [field?] at found
      split at found
      case h_1 own isOwn =>
        have isName : own.name = name := by simpa using List.find?_some isOwn
        exact ⟨_, .inr ⟨own, mem_ownFields_iff.2
          ⟨List.mem_of_find?_eq_some isOwn, isName ▸ isStandard⟩, isName, rfl⟩⟩
      case h_2 =>
        exact absurd (isStandardField_iff.2 ⟨_, mem_standardFields_of_standardField? found⟩)
          isStandard
  · rintro ⟨type, ⟨kind, member, -⟩ | ⟨field, member, rfl, -⟩⟩
    · exact entity.hasField_of_isStandardField (isStandardField_iff.2 ⟨kind, member⟩)
    · rw [hasField, field?]
      split
      case h_1 => rfl
      case h_2 isNone =>
        have isOwn := (mem_ownFields_iff.1 member).1
        exact absurd (List.find?_eq_none.1 isNone field isOwn) (by simp)

/-- Column types with the same word are the same. -/
theorem columnType_eq_of_word_eq {first second : ColumnType} (same : first.word = second.word) :
    first = second := by
  cases first <;> cases second <;> first | rfl | exact absurd same (by decide)

/-- **The columns have the types of the fields that plans are checked against exactly when own
fields that are named like standard ones have their types.** -/
theorem declaresFields_iff (entity : Entity) : entity.DeclaresFields ↔ entity.KeepsTypes := by
  constructor
  · rintro declares ⟨name, kind⟩ isStandard field isFirst
    have found : entity.field? name = some field := by
      rw [field?, Option.mem_def.1 isFirst]
    rcases mem_declared_iff.1 (declares name field found) with
      ⟨other, member, sameWord⟩ | ⟨own, member, isName, -⟩
    · have sameKind : other = kind := eq_of_mem_standardFields member isStandard
      exact columnType_eq_of_word_eq (sameWord.symm.trans (by rw [sameKind]))
    · have isOwn := (mem_ownFields_iff.1 member).2
      exact absurd (isStandardField_iff.2 ⟨kind, isName ▸ isStandard⟩) isOwn
  · intro keeps name field found
    rw [mem_declared_iff]
    rw [field?] at found
    split at found
    case h_1 own isOwn =>
      cases found
      have isName : field.name = name := by simpa using List.find?_some isOwn
      by_cases isStandard : isStandardField name
      · obtain ⟨kind, member⟩ := isStandardField_iff.1 isStandard
        have sameType := keeps (name, kind) member field isOwn
        exact .inl ⟨kind, member, congrArg ColumnType.word sameType.symm⟩
      · exact .inr ⟨field, mem_ownFields_iff.2
          ⟨List.mem_of_find?_eq_some isOwn, isName ▸ isStandard⟩, isName, rfl⟩
    case h_2 =>
      exact .inl ⟨field.type, mem_standardFields_of_standardField? found, rfl⟩

end Entity

/-! ## Whole catalogs -/

namespace Database

/-- Tables can be made for entities whose tables have different names exactly when the names of the
fields of each are apart. -/
theorem withTables_eq_none_iff {database : Database} {entities : List Entity}
    (absent : ∀ entity ∈ entities, database.table? entity.tableName = none)
    (apart : entities.Pairwise fun first second => ¬ sameName first.tableName second.tableName) :
    (database.withTables entities).2 = none ↔ ∀ entity ∈ entities, entity.NamesApart := by
  induction entities generalizing database with
  | nil => simp [withTables]
  | cons entity rest ih =>
      obtain ⟨absentFirst, absentRest⟩ := List.forall_mem_cons.1 absent
      obtain ⟨apartFirst, apartRest⟩ := List.pairwise_cons.1 apart
      have isOk := entity.emptyTable_isOk_iff
      rw [withTables, absentFirst, if_neg nofun, List.forall_mem_cons, ← isOk]
      split
      case h_1 fault failed => simp [failed, Except.isOk, Except.toBool]
      case h_2 table made =>
        rw [ih (fun later member => ?_) apartRest, made]
        · exact (and_iff_right rfl).symm
        · rw [table?, List.find?_append, ← table?, absentRest later member, Option.none_or,
            List.find?_singleton, entity.name_of_emptyTable made, if_neg (apartFirst later member)]

end Database

namespace Catalog

theorem not_sameName_tableName (catalog : Catalog) :
    catalog.entities.Pairwise fun first second =>
      ¬ sameName first.tableName second.tableName := by
  refine toLower_tableName_ne.imp fun differ same => differ (String.toList_inj.1 ?_)
  have inLower (text : String) : text.toLower.toList = text.toList.map Char.toLower :=
    String.toList_map
  rw [inLower, inLower]
  exact of_decide_eq_true same

/-- **In a catalog, an entity has a field of some name exactly when the statement for its table
declares a column of that name; the columns differ in more than case exactly when the names of its
fields do, and have the types that plans are checked against exactly when no field that is named
like a standard one changes its type.** -/
theorem declares_iff {given : List Entity} {catalog : Catalog}
    (built : ofEntities given = .ok catalog) :
    (∀ entity ∈ catalog.entities,
      (∀ name, entity.hasField name ↔ ∃ type, (name, type) ∈ entity.declared) ∧
        (entity.DeclaresApart ↔ entity.NamesApart) ∧
        (entity.DeclaresFields ↔ entity.KeepsTypes)) ∧
      ((∀ entity ∈ catalog.entities, entity.DeclaresApart ∧ entity.DeclaresFields) ↔
        ∀ entity ∈ given, entity.NamesApart ∧ entity.KeepsTypes) ∧
      ((Database.withTables {} catalog.entities).2 = none ↔
        ∀ entity ∈ given, entity.NamesApart) := by
  have sameEntities := perm_of_ofEntities built
  have ofGiven (property : Entity → Prop) : (∀ entity ∈ catalog.entities, property entity) ↔
      ∀ entity ∈ given, property entity.trimmed := by
    simp [sameEntities.mem_iff]
  refine ⟨fun entity _ => ⟨entity.hasField_iff, entity.declaresApart_iff,
    entity.declaresFields_iff⟩, ?_, ?_⟩
  · simp only [Entity.declaresApart_iff, Entity.declaresFields_iff]
    exact ofGiven fun entity => entity.NamesApart ∧ entity.KeepsTypes
  · rw [Database.withTables_eq_none_iff (fun _ _ => rfl) catalog.not_sameName_tableName]
    exact ofGiven Entity.NamesApart

/-- Catalogs with the same entities are the same. -/
theorem ofEntities_eq_ok {given : List Entity} {catalog : Catalog}
    (same : (ofEntities given).toOption.map (·.entities) = some catalog.entities) :
    ofEntities given = .ok catalog := by
  cases built : ofEntities given with
  | error fault =>
      rw [built] at same
      cases same
  | ok other =>
      rw [built] at same
      obtain ⟨entities, _, _, _⟩ := other
      obtain ⟨_, _, _, _⟩ := catalog
      obtain rfl : entities = _ := Option.some.inj same
      rfl

/-- An entity with a standard field of its own, and others beside. -/
def parcel : Entity :=
  { name := " Parcel", fields := [⟨"docstatus", .check, true, none, none⟩,
      ⟨"Weight, \"net\"", .float, true, none, none⟩] }

/-- What plans are checked against is what the table of a parcel has. -/
theorem declares_parcel :
    ∃ catalog, ofEntities [parcel] = .ok catalog ∧
      (∀ entity ∈ catalog.entities, entity.DeclaresApart ∧ entity.DeclaresFields) ∧
      (Database.withTables {} catalog.entities).2 = none := by
  obtain ⟨catalog, built⟩ := exists_eq_ok_of_isOk
    (show (ofEntities [parcel]).isOk = true by decide +kernel)
  obtain ⟨-, agrees, opens⟩ := declares_iff built
  exact ⟨catalog, built, agrees.2 (by decide +kernel), opens.2 (by decide +kernel)⟩

/-- An entity whose own `docstatus` is free text. -/
def shadowing : Entity := { name := "Item", fields := [⟨"docstatus", .data, true, none, none⟩] }

/-- An entity with two fields that differ in nothing but case. -/
def doubled : Entity :=
  { name := "Box", fields := [⟨"size", .int, true, none, none⟩, ⟨"Size", .int, true, none, none⟩] }

/-- The catalog of both. -/
def oddColumns : Catalog where
  entities := [doubled, shadowing]
  ordered := by decide +kernel
  distinct := by decide +kernel
  named := by decide +kernel

/-- A column of another type than the field, and two columns of one name: catalogs take both. -/
theorem not_declares_shadowing_doubled :
    ∃ catalog, ofEntities [shadowing, doubled] = .ok catalog ∧
      (∃ entity ∈ catalog.entities, entity.DeclaresApart ∧ ¬ entity.DeclaresFields) ∧
      (∃ entity ∈ catalog.entities, ¬ entity.DeclaresApart ∧ entity.DeclaresFields) ∧
      (Database.withTables {} catalog.entities).2 = some (.duplicateColumn "Size") := by
  have built : ofEntities [shadowing, doubled] = .ok oddColumns :=
    ofEntities_eq_ok (by decide +kernel)
  have ofShadowing : shadowing ∈ oddColumns.entities := by simp [oddColumns]
  have ofDoubled : doubled ∈ oddColumns.entities := by simp [oddColumns]
  refine ⟨_, built, ⟨shadowing, ofShadowing, ?_, ?_⟩, ⟨doubled, ofDoubled, ?_, ?_⟩,
    by decide +kernel⟩
  · exact shadowing.declaresApart_iff.2 (by decide +kernel)
  · intro declares
    exact absurd (shadowing.declaresFields_iff.1 declares) (by decide +kernel)
  · intro declares
    exact absurd (doubled.declaresApart_iff.1 declares) (by decide +kernel)
  · exact doubled.declaresFields_iff.2 (by decide +kernel)

end Catalog

end Inquiry
