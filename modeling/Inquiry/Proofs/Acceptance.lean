import Inquiry.Check.Basic
import Inquiry.Proofs.RuledQueries

/-!
# What is accepted

Checking a plan passes through stages, and the plan is accepted when every
stage lets it pass.  For a generated query the stages are the code, its
statements and its table references, so acceptance of a query is a conjunction
of what they say (`query_eq_ok_iff`, `statements_eq_ok_iff`,
`tables_eq_ok_iff`).

The check of statements is weaker than what it is for.  It bounds their number
from above only, and it looks no further than the outermost node of each.  So
a text of comments is accepted, and so is a query with an INSERT for its body
(`acceptance_of_writing_query`).  Whatever the parser, if it finds confined
queries, what is accepted and can be read is a single statement that only reads
exactly when there is a statement and no query in it writes
(`accepted_onlyReads_iff`).
-/

set_option autoImplicit false

namespace Inquiry.Check

/-! ## The stages for a query -/

/-- A query is accepted when its code is not blank and its statements and tables are accepted. -/
theorem query_eq_ok_iff {parser : Sql.Parser} {catalog : Catalog} {given : GeneratedQuery} :
    query parser catalog given = .ok () ↔
      Text.trim given.code.toList ≠ [] ∧
        statements parser (Text.trim given.code.toList) = .ok () ∧
        tables catalog (Text.trim given.code.toList) = .ok () := by
  simp only [query]
  generalize Text.trim given.code.toList = code
  cases code with
  | nil => simp [bind, Except.bind, throw, throwThe, MonadExceptOf.throw]
  | cons symbol rest =>
      cases statements parser (symbol :: rest) with
      | error fault => simp [bind, Except.bind]
      | ok done => simp [bind, Except.bind]

/-- Code that can be read is accepted when it is at most one statement, and a query. -/
theorem statements_eq_ok_iff {parser : Sql.Parser} {code : List Char} {found : List Sql.Statement}
    (parsed : parser code = some found) :
    statements parser code = .ok () ↔
      found.length ≤ 1 ∧ ∀ statement ∈ found, statement.tree.isQuery = true := by
  simp only [statements, parsed]
  split
  case isTrue several => simp [Nat.not_le.2 several]
  case isFalse single =>
    cases other : found.find? (fun statement => !statement.tree.isQuery) with
    | none => simpa [Nat.not_lt.1 single] using other
    | some statement =>
        have member := List.mem_of_find?_eq_some other
        have isOther := List.find?_some other
        apply iff_of_false nofun
        rintro ⟨-, queries⟩
        simp [queries statement member] at isOther

/-- Table references are accepted when there are some, none is empty and each means an entity. -/
theorem tables_eq_ok_iff {catalog : Catalog} {code : List Char} :
    tables catalog code = .ok () ↔
      Code.scan catalog code ≠ [] ∧
        ∀ reference ∈ Code.scan catalog code,
          reference.isEmpty = false ∧ (reference.entity? catalog).isSome = true := by
  simp only [tables]
  generalize Code.scan catalog code = references
  by_cases noReference : references = []
  · simp [noReference]
  · cases empty : references.find? (·.isEmpty) with
    | some reference =>
        have member := List.mem_of_find?_eq_some empty
        have isEmpty := List.find?_some empty
        simp only [List.isEmpty_iff, noReference, if_false]
        apply iff_of_false nofun
        rintro ⟨-, known⟩
        simp [(known reference member).1] at isEmpty
    | none =>
        cases unknown : references.find? (fun reference => (reference.entity? catalog).isNone) with
        | some reference =>
            have member := List.mem_of_find?_eq_some unknown
            have isUnknown := List.find?_some unknown
            simp only [List.isEmpty_iff, noReference, if_false]
            apply iff_of_false nofun
            rintro ⟨-, known⟩
            have means := (known reference member).2
            rw [Option.isNone_iff_eq_none.1 isUnknown] at means
            cases means
        | none =>
            rw [List.find?_eq_none] at empty unknown
            simp only [List.isEmpty_iff, noReference, if_false, true_iff]
            refine ⟨noReference, fun reference member => ⟨?_, ?_⟩⟩
            · simpa using empty reference member
            · simpa [Option.isSome_iff_ne_none] using unknown reference member

/-- Code that is read as a query, or as nothing, is accepted for its tables. -/
theorem plan_eq_ok_of_parsed {parser : Sql.Parser} {catalog : Catalog} {given : GeneratedQuery}
    {found : List Sql.Statement} (parsed : parser (Text.trim given.code.toList) = some found)
    (atMostOne : found.length ≤ 1)
    (queries : ∀ statement ∈ found, statement.tree.isQuery = true)
    (notBlank : Text.trim given.code.toList ≠ [])
    (known : tables catalog (Text.trim given.code.toList) = .ok ()) :
    plan catalog (.query given) parser = .ok () := by
  have stated : statements parser (Text.trim given.code.toList) = .ok () :=
    (statements_eq_ok_iff parsed).2 ⟨atMostOne, queries⟩
  exact query_eq_ok_iff.2 ⟨notBlank, stated, known⟩

/-! ## Accepted statements -/

/-- **Accepted code that can be read is a single statement that only reads exactly when it holds
a statement and no query in it writes**, whatever the parser, if it finds confined queries. -/
theorem accepted_onlyReads_iff (parser : Sql.Parser) (isConfined : parser.IsConfined)
    (catalog : Catalog) (given : GeneratedQuery) (found : List Sql.Statement)
    (accepted : plan catalog (.query given) parser = .ok ())
    (parsed : parser (Text.trim given.code.toList) = some found) :
    (∃ statement, found = [statement] ∧ statement.tree.onlyReads = true) ↔
      found ≠ [] ∧ ∀ statement ∈ found, statement.tree.queryWrites = false := by
  obtain ⟨-, stated, -⟩ := query_eq_ok_iff.1 accepted
  obtain ⟨atMostOne, queries⟩ := (statements_eq_ok_iff parsed).1 stated
  have reads : ∀ statement ∈ found,
      (statement.tree.onlyReads = true ↔ statement.tree.queryWrites = false) := by
    intro statement member
    have isQuery := queries statement member
    exact Sql.onlyReads_iff_of_isQuery (isConfined _ _ parsed statement member isQuery) isQuery
  constructor
  · rintro ⟨statement, rfl, onlyReads⟩
    refine ⟨List.cons_ne_nil _ _, ?_⟩
    intro other member
    obtain rfl := List.mem_singleton.1 member
    exact (reads other member).1 onlyReads
  · rintro ⟨some, noWrite⟩
    match found, some, atMostOne with
    | [statement], _, _ =>
        have member : statement ∈ [statement] := List.mem_singleton.2 rfl
        exact ⟨statement, rfl, (reads statement member).2 (noWrite statement member)⟩

theorem itemCatalog_isNamed : "Item" ≠ "" ∧ Text.trimmed "Item" = "Item" := ⟨by decide, rfl⟩

/-- A catalog with one entity. -/
def itemCatalog : Catalog := .alone { name := "Item", fields := [] } itemCatalog_isNamed

/-- A query with a named query, a union and a word that writes in a literal. -/
def unionQuery : GeneratedQuery where
  code := "WITH t AS (SELECT 1) SELECT 'drop' FROM tabItem UNION SELECT * FROM t"
  referencedEntities := ["Item"]

/-- A query with an INSERT for its body. -/
def insertingQuery : GeneratedQuery where
  code := "WITH t AS (SELECT 1) INSERT INTO `tabItem` SELECT * FROM t"
  referencedEntities := ["Item"]

/-- A query that is nothing but a comment. -/
def commentQuery : GeneratedQuery where
  code := "-- `tabItem`"
  referencedEntities := ["Item"]

/-- The union is accepted and only reads. -/
theorem accepted_onlyReads_iff_union :
    ∃ found, Sql.Parser.IsConfined .byRules ∧
      plan itemCatalog (.query unionQuery) .byRules = .ok () ∧
      Sql.Parser.byRules (Text.trim unionQuery.code.toList) = some found ∧
      ∃ statement, found = [statement] ∧ statement.tree.onlyReads = true := by
  have reading : (Sql.Parser.byRules (Text.trim unionQuery.code.toList)).any (fun found =>
      found.length = 1 && found.all (fun statement =>
        statement.tree.isQuery && !statement.tree.queryWrites)) = true := by
    decide +kernel
  obtain ⟨found, parsed, good⟩ := (Option.any_eq_true _ _).1 reading
  simp only [Bool.and_eq_true, decide_eq_true_eq, List.all_eq_true, Bool.not_eq_true'] at good
  obtain ⟨one, queries⟩ := good
  have accepted : plan itemCatalog (.query unionQuery) .byRules = .ok () := by
    apply plan_eq_ok_of_parsed parsed (Nat.le_of_eq one)
    · intro statement member
      exact (queries statement member).1
    · decide +kernel
    · exact tables_eq_ok_iff.2 (by decide +kernel)
  have some : found ≠ [] := List.ne_nil_of_length_pos (by omega)
  have noWrite : ∀ statement ∈ found, statement.tree.queryWrites = false := by
    intro statement member
    exact (queries statement member).2
  have only := (accepted_onlyReads_iff .byRules Sql.isConfined_byRules itemCatalog unionQuery found
    accepted parsed).2 ⟨some, noWrite⟩
  exact ⟨found, Sql.isConfined_byRules, accepted, parsed, only⟩

/-- With the parser that reads by the rules, the query with an INSERT for its body is accepted and
does not only read; and the comment is accepted and holds no statement. -/
theorem acceptance_of_writing_query :
    Sql.Parser.IsConfined .byRules ∧
      (plan itemCatalog (.query insertingQuery) .byRules = .ok () ∧
        ∃ statement,
          Sql.Parser.byRules (Text.trim insertingQuery.code.toList) = some [statement] ∧
          statement.tree.onlyReads = false) ∧
      plan itemCatalog (.query commentQuery) .byRules = .ok () ∧
      Sql.Parser.byRules (Text.trim commentQuery.code.toList) = some [] := by
  have inserting : (Sql.Parser.byRules (Text.trim insertingQuery.code.toList)).any (fun found =>
      found.length = 1 && found.all (fun statement =>
        statement.tree.isQuery && !statement.tree.onlyReads)) = true := by
    decide +kernel
  have comment : (Sql.Parser.byRules (Text.trim commentQuery.code.toList)).any (·.isEmpty) =
      true := by
    decide +kernel
  obtain ⟨found, parsed, writes⟩ := (Option.any_eq_true _ _).1 inserting
  simp only [Bool.and_eq_true, decide_eq_true_eq, List.all_eq_true, Bool.not_eq_true'] at writes
  obtain ⟨statement, rfl⟩ := List.length_eq_one_iff.1 writes.1
  have ofStatement := writes.2 statement (List.mem_singleton.2 rfl)
  obtain ⟨none, empty, isEmpty⟩ := (Option.any_eq_true _ _).1 comment
  obtain rfl := List.isEmpty_iff.1 isEmpty
  refine ⟨Sql.isConfined_byRules, ⟨?_, statement, parsed, ofStatement.2⟩, ?_, empty⟩
  · apply plan_eq_ok_of_parsed parsed (Nat.le_of_eq writes.1)
    · intro other member
      exact (writes.2 other member).1
    · decide +kernel
    · exact tables_eq_ok_iff.2 (by decide +kernel)
  · apply plan_eq_ok_of_parsed empty (Nat.zero_le 1)
    · exact nofun
    · decide +kernel
    · exact tables_eq_ok_iff.2 (by decide +kernel)

end Inquiry.Check
