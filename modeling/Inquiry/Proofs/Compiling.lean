import Inquiry.Proofs.Acceptance
import Inquiry.Proofs.Binding
import Inquiry.Proofs.Outcomes

/-!
# Accepted operations become selections

Checking an operation and turning it into a selection are separate passes, and
each looks up the entity, the fields, the comparisons and the order for itself.
They agree: whatever the check accepts becomes a selection of the same entity
(`Selection.of_accepted_operation`).  To see this, acceptance is read as a
conjunction of what each stage says (`Check.operation_eq_ok_iff`), and so is the
making of a selection (`Selection.ofOperation_eq_ok_iff`); each stage of the
second succeeds by what the stages of the first say.

The stages that make clauses read nothing but the entity and the conditions.
So a count and a listing with the same conditions select the same rows by the
same text, whatever the order and the limit of the listing.
-/

set_option autoImplicit false

namespace Inquiry

/-! ## What acceptance of an operation says -/

namespace Check

/-- A field is found when the entity has it. -/
theorem fieldOf_eq_ok_iff {entity : Entity} {name : String} {field : Field} :
    fieldOf entity name = .ok field ↔ entity.field? name = some field := by
  rw [fieldOf]
  cases entity.field? name with
  | none => exact iff_of_false nofun nofun
  | some other => simp

theorem hasField_of_fieldOf {entity : Entity} {name : String} {field : Field}
    (found : fieldOf entity name = .ok field) : entity.hasField name = true := by
  rw [Entity.hasField, fieldOf_eq_ok_iff.1 found, Option.isSome_some]

/-- A condition is accepted when its field and comparison are known and its value fits them. -/
theorem condition_eq_ok_iff {entity : Entity} {given : Condition} :
    condition entity given = .ok () ↔
      ∃ field, fieldOf entity given.field = .ok field ∧
        ∃ comparison, Comparison.ofText? given.comparison = some comparison ∧
          value field comparison given.value = .ok () := by
  rw [condition, bind_eq_ok_iff]
  apply exists_congr
  intro field
  apply and_congr_right
  intro _
  cases Comparison.ofText? given.comparison with
  | none => simp
  | some comparison => simp

/-- Conditions are accepted when each of them is. -/
theorem conditions_eq_ok_iff {entity : Entity} {given : List Condition} :
    conditions entity given = .ok () ↔ ∀ one ∈ given, condition entity one = .ok () := by
  induction given with
  | nil => simp [conditions]
  | cons first rest ih => rw [conditions, then_eq_ok_iff, ih, List.forall_mem_cons]

/-- The first word of an accepted order is a field. -/
theorem hasField_of_order {entity : Entity} {orderBy : String}
    (accepted : order entity orderBy = .ok ()) :
    entity.hasField (String.ofList ((Text.words orderBy.toList).headD [])) = true := by
  obtain ⟨field, found, -⟩ := bind_eq_ok_iff.1 accepted
  exact hasField_of_fieldOf found

/-- An operation is accepted when it is one of the three, about an entity, with a record name if
it fetches one, and with conditions, an order and a limit that are accepted. -/
theorem operation_eq_ok_iff {catalog : Catalog} {given : Operation} :
    operation catalog given = .ok () ↔
      ∃ kind doctype entity, given.kind? = some kind ∧ given.parameters.doctype = some doctype ∧
        catalog.entity? doctype = some entity ∧
        ¬(kind = .details ∧ given.parameters.name = none) ∧
        (∀ one ∈ given.parameters.filters, condition entity one = .ok ()) ∧
        (∀ orderBy ∈ given.parameters.orderBy, order entity orderBy = .ok ()) ∧
        ∀ bound ∈ given.parameters.limit, limit bound = .ok () := by
  obtain ⟨name, ⟨doctype?, filters, bound?, orderBy?, record?⟩⟩ := given
  rw [operation]
  cases Operation.kind? _ with
  | none => simp
  | some kind =>
    cases doctype? with
    | none => simp
    | some doctype =>
      cases known : catalog.entity? doctype with
      | none => simp [known]
      | some entity =>
        by_cases unnamed : kind = .details ∧ record? = none
        · simp [unnamed, known, bind_eq_ok_iff]
        · simp only [← conditions_eq_ok_iff]
          cases orderBy? <;> cases bound? <;> simp [-not_and, unnamed, known, then_eq_ok_iff]

end Check

/-! ## What the making of a selection says -/

namespace Selection

/-- The clause that stands for a condition on an entity. -/
def IsClauseOf (entity : Entity) (condition : Condition) (clause : Clause) : Prop :=
  entity.hasField condition.field = true ∧
    ∃ comparison, Comparison.ofText? condition.comparison = some comparison ∧
      clause = clauseOf condition.field comparison condition.value

@[simp] theorem column_clauseOf (column : String) (comparison : Comparison) (value : Json) :
    (clauseOf column comparison value).column = column := by
  unfold clauseOf
  split <;> rfl

/-- A column is that of a field of the entity. -/
theorem columnOf_eq_ok_iff {entity : Entity} {field column : String} :
    columnOf entity field = .ok column ↔ entity.hasField field = true ∧ column = field := by
  rw [columnOf]
  by_cases isField : entity.hasField field = true
  · simp [isField, eq_comm]
  · simp [isField]

/-- A condition becomes a clause when its field and its comparison are known. -/
theorem clause_eq_ok_iff {entity : Entity} {condition : Condition} {result : Clause} :
    clause entity condition = .ok result ↔ IsClauseOf entity condition result := by
  rw [clause, bind_eq_ok_iff, IsClauseOf]
  simp only [columnOf_eq_ok_iff, and_assoc]
  cases Comparison.ofText? condition.comparison with
  | none => simp
  | some comparison => simp [pure_eq_ok_iff]

/-- An order becomes a sort key when its first word is a field. -/
theorem sortKey_eq_ok_iff {entity : Entity} {orderBy : String} {key : SortKey} :
    sortKey entity orderBy = .ok key ↔
      entity.hasField (String.ofList ((Text.words orderBy.toList).headD [])) = true ∧
        key = { column := String.ofList ((Text.words orderBy.toList).headD []),
                ascending := (Text.words orderBy.toList).tail.head?.any
                  (fun word => Text.lower word = "asc".toList) } := by
  rw [sortKey, bind_eq_ok_iff]
  simp only [columnOf_eq_ok_iff, pure_eq_ok_iff, and_assoc, exists_and_left, exists_eq_left]

/-- An operation becomes a selection of its entity, with clauses for the record name and for each
condition in turn, and with what is wanted of the rows. -/
theorem ofOperation_eq_ok_iff {catalog : Catalog} {given : Operation} {selection : Selection} :
    ofOperation catalog given = .ok selection ↔
      ∃ kind doctype entity named clauses wanted, given.kind? = some kind ∧
        given.parameters.doctype = some doctype ∧ catalog.entity? doctype = some entity ∧
        nameClauses kind given.parameters.name = .ok named ∧
        List.Forall₂ (IsClauseOf entity) given.parameters.filters clauses ∧
        wantedOf entity kind given.parameters = .ok wanted ∧
        selection = { table := entity.tableName, clauses := named ++ clauses, wanted } := by
  obtain ⟨name, ⟨doctype?, filters, bound?, orderBy?, record?⟩⟩ := given
  rw [ofOperation]
  cases Operation.kind? _ with
  | none => simp
  | some kind =>
    cases doctype? with
    | none => simp
    | some doctype =>
      cases known : catalog.entity? doctype with
      | none => simp [known]
      | some entity =>
        simp [known, bind_eq_ok_iff, map_eq_ok_iff, mapM_eq_ok_iff, clause_eq_ok_iff]

/-! ## Selections of accepted operations -/

/-- A selection is about an entity in the way that an operation asks for. -/
structure IsAbout (entity : Entity) (given : Operation) (selection : Selection) : Prop where
  /-- The table is that of the entity. -/
  table : selection.table = entity.tableName
  /-- There is a clause for each condition in turn, perhaps behind one for the record name. -/
  clauses : ∃ named clauses, selection.clauses = named ++ clauses ∧
    (named = [] ∨ ∃ name, given.parameters.name = some name ∧ named = [nameClause name]) ∧
    List.Forall₂ (IsClauseOf entity) given.parameters.filters clauses
  /-- Rows are selected by fields of the entity. -/
  selected : ∀ clause ∈ selection.clauses, entity.hasField clause.column = true
  /-- Rows are sorted by a field of the entity. -/
  sorted : ∀ key limit, selection.wanted = .listing (some key) limit →
    entity.hasField key.column = true

/-- The record name is a field of every entity. -/
theorem hasField_name (entity : Entity) : entity.hasField "name" = true := by
  rw [Entity.hasField, Entity.field?]
  split
  · rfl
  · decide

/-- The clauses for the record name are none or one. -/
theorem of_nameClauses {kind : OperationKind} {name : Option String} {named : List Clause}
    (made : nameClauses kind name = .ok named) :
    named = [] ∨ ∃ record, name = some record ∧ named = [nameClause record] := by
  unfold nameClauses at made
  split at made
  case h_1 => cases made
  case h_2 record =>
    cases made
    exact .inr ⟨record, rfl, rfl⟩
  case h_3 =>
    cases made
    exact .inl rfl

/-- The clauses for conditions select by fields of the entity. -/
theorem hasField_of_isClauseOf {entity : Entity} {conditions : List Condition}
    {clauses : List Clause} (made : List.Forall₂ (IsClauseOf entity) conditions clauses) :
    ∀ clause ∈ clauses, entity.hasField clause.column = true := by
  induction made with
  | nil => exact nofun
  | cons first rest ih =>
      obtain ⟨isField, comparison, -, rfl⟩ := first
      refine List.forall_mem_cons.2 ⟨?_, ih⟩
      rw [column_clauseOf]
      exact isField

/-- What is listed is sorted by a field of the entity. -/
theorem hasField_of_wantedOf {entity : Entity} {kind : OperationKind} {parameters : Parameters}
    {key : SortKey} {limit : Option Int}
    (made : wantedOf entity kind parameters = .ok (.listing (some key) limit)) :
    entity.hasField key.column = true := by
  cases kind with
  | count | details => cases made
  | search =>
      obtain ⟨order, ofOrder, same⟩ := bind_eq_ok_iff.1 made
      obtain ⟨rfl, -⟩ := Wanted.listing.inj (pure_eq_ok_iff.1 same)
      cases given : parameters.orderBy with
      | none =>
          rw [given] at ofOrder
          cases ofOrder
      | some orderBy =>
          rw [given, Option.mapM_some, map_eq_ok_iff] at ofOrder
          obtain ⟨found, ofKey, same⟩ := ofOrder
          obtain rfl := Option.some.inj same
          obtain ⟨isField, rfl⟩ := sortKey_eq_ok_iff.1 ofKey
          exact isField

/-- Every selection is about the entity of its operation. -/
theorem isAbout_of_ofOperation {catalog : Catalog} {given : Operation} {selection : Selection}
    (made : ofOperation catalog given = .ok selection) :
    ∃ doctype entity, given.parameters.doctype = some doctype ∧
      catalog.entity? doctype = some entity ∧ selection.IsAbout entity given := by
  obtain ⟨kind, doctype, entity, named, clauses, wanted, -, ofDoctype, known, ofName, ofFilters,
    ofWanted, rfl⟩ := ofOperation_eq_ok_iff.1 made
  have namedOnce := of_nameClauses ofName
  refine ⟨doctype, entity, ofDoctype, known, rfl, ⟨named, clauses, rfl, namedOnce, ofFilters⟩,
    fun clause member => ?_, ?_⟩
  · rcases List.mem_append.1 member with member | member
    · rcases namedOnce with rfl | ⟨name, -, rfl⟩
      · cases member
      · obtain rfl := List.mem_singleton.1 member
        exact hasField_name entity
    · exact hasField_of_isClauseOf ofFilters clause member
  · rintro key limit rfl
    exact hasField_of_wantedOf ofWanted

/-- What is wanted of the rows can be made out when the order is accepted. -/
theorem exists_wantedOf {entity : Entity} (kind : OperationKind) {parameters : Parameters}
    (accepted : ∀ orderBy ∈ parameters.orderBy, Check.order entity orderBy = .ok ()) :
    ∃ wanted, wantedOf entity kind parameters = .ok wanted := by
  cases kind with
  | count | details => exact ⟨_, rfl⟩
  | search =>
      rw [wantedOf]
      cases given : parameters.orderBy with
      | none => exact ⟨_, rfl⟩
      | some orderBy =>
          have isField := Check.hasField_of_order (accepted orderBy given)
          have made := sortKey_eq_ok_iff.2 ⟨isField, rfl⟩
          rw [Option.mapM_some, made]
          exact ⟨_, rfl⟩

/-- An accepted operation becomes a selection. -/
theorem exists_ofOperation {catalog : Catalog} {given : Operation}
    (accepted : Check.operation catalog given = .ok ()) :
    ∃ selection, ofOperation catalog given = .ok selection := by
  obtain ⟨kind, doctype, entity, ofKind, ofDoctype, known, named, conditions, order, -⟩ :=
    Check.operation_eq_ok_iff.1 accepted
  have ofName : ∃ named, nameClauses kind given.parameters.name = .ok named := by
    cases kind with
    | search | count => exact ⟨[], rfl⟩
    | details =>
        cases name : given.parameters.name with
        | none => exact absurd ⟨rfl, name⟩ named
        | some name => exact ⟨_, rfl⟩
  have ofFilters : ∃ clauses, given.parameters.filters.mapM (clause entity) = .ok clauses := by
    apply exists_mapM_eq_ok
    intro condition member
    obtain ⟨field, found, comparison, meant, -⟩ :=
      Check.condition_eq_ok_iff.1 (conditions condition member)
    exact ⟨_, clause_eq_ok_iff.2 ⟨Check.hasField_of_fieldOf found, comparison, meant, rfl⟩⟩
  obtain ⟨named, ofName⟩ := ofName
  obtain ⟨clauses, ofFilters⟩ := ofFilters
  obtain ⟨wanted, ofWanted⟩ := exists_wantedOf kind order
  have ofClauses := (mapM_eq_ok_iff.1 ofFilters).imp fun _ _ => clause_eq_ok_iff.1
  exact ⟨_, ofOperation_eq_ok_iff.2 ⟨kind, doctype, entity, named, clauses, wanted, ofKind,
    ofDoctype, known, ofName, ofClauses, ofWanted, rfl⟩⟩

/-- A condition stands for one clause only. -/
theorem rightUnique_isClauseOf (entity : Entity) : Relator.RightUnique (IsClauseOf entity) := by
  rintro condition first second ⟨-, comparison, meant, rfl⟩ ⟨-, other, alsoMeant, rfl⟩
  obtain rfl := Option.some.inj (meant.symm.trans alsoMeant)
  rfl

/-- A count and a listing with the same conditions select from the same table by the same
clauses. -/
theorem same_clauses {catalog : Catalog} {counting listing : Operation}
    {counts lists : Selection} (counted : counting.kind? = some .count)
    (listed : listing.kind? = some .search)
    (sameDoctype : counting.parameters.doctype = listing.parameters.doctype)
    (sameFilters : counting.parameters.filters = listing.parameters.filters)
    (ofCounting : ofOperation catalog counting = .ok counts)
    (ofListing : ofOperation catalog listing = .ok lists) :
    counts.table = lists.table ∧ counts.clauses = lists.clauses := by
  obtain ⟨kind, doctype, entity, named, clauses, wanted, ofKind, ofDoctype, known, ofName,
    ofFilters, -, rfl⟩ := ofOperation_eq_ok_iff.1 ofCounting
  obtain ⟨kind', doctype', entity', named', clauses', wanted', ofKind', ofDoctype', known', ofName',
    ofFilters', -, rfl⟩ := ofOperation_eq_ok_iff.1 ofListing
  obtain rfl := Option.some.inj (counted.symm.trans ofKind)
  obtain rfl := Option.some.inj (listed.symm.trans ofKind')
  rw [sameDoctype, ofDoctype'] at ofDoctype
  obtain rfl := Option.some.inj ofDoctype
  obtain rfl := Option.some.inj (known.symm.trans known')
  rw [sameFilters] at ofFilters
  obtain rfl := (rightUnique_isClauseOf entity).forall₂ ofFilters ofFilters'
  obtain rfl := Except.ok.inj ofName
  obtain rfl := Except.ok.inj ofName'
  exact ⟨rfl, rfl⟩

/-- **An accepted operation becomes a selection of its entity, by fields of the entity only, with
as many placeholders as parameters, each bound where it belongs; and a count and a listing with the
same conditions select from the same table by the same text and parameters.** -/
theorem of_accepted_operation (catalog : Catalog) (parser : Sql.Parser) :
    (∀ given : Operation, Check.plan catalog (.operation given) parser = .ok () →
      ∃ selection, ofOperation catalog given = .ok selection ∧
        (∃ doctype entity, given.parameters.doctype = some doctype ∧
          catalog.entity? doctype = some entity ∧ selection.IsAbout entity given) ∧
        placeholders selection.text = selection.parameters.length ∧
        bindAll selection.text selection.parameters = some selection.bound) ∧
      ∀ (counting listing : Operation) (counts lists : Selection),
        counting.kind? = some .count → listing.kind? = some .search →
        counting.parameters.doctype = listing.parameters.doctype →
        counting.parameters.filters = listing.parameters.filters →
        ofOperation catalog counting = .ok counts → ofOperation catalog listing = .ok lists →
        counts.table = lists.table ∧ counts.conditionText = lists.conditionText ∧
          counts.parameters = lists.parameters := by
  constructor
  · intro given accepted
    obtain ⟨selection, made⟩ := exists_ofOperation accepted
    obtain ⟨bound, counted⟩ := selection.bindAll_text
    exact ⟨selection, made, isAbout_of_ofOperation made, counted, bound⟩
  · intro counting listing counts lists counted listed sameDoctype sameFilters ofCounting ofListing
    obtain ⟨sameTable, sameClauses⟩ :=
      same_clauses counted listed sameDoctype sameFilters ofCounting ofListing
    refine ⟨sameTable, ?_, ?_⟩
    · rw [conditionText, conditionText, sameClauses]
    · rw [parameters, parameters, sameClauses]

/-- The conditions that an item is settled or withdrawn and was made at some time. -/
def itemConditions : List Condition :=
  [⟨"docstatus", "In", .array [.integer 1, .integer 2]⟩, ⟨"creation", "<>", .null⟩]

/-- A count of items. -/
def itemCount : Operation where
  name := "count_documents"
  parameters := { doctype := some "item", filters := itemConditions }

/-- A listing of the same items, in order and up to a limit. -/
def itemListing : Operation where
  name := "dynamic_search"
  parameters := { doctype := some "item", filters := itemConditions, limit := some 5,
                  orderBy := some "creation ASC" }

/-- The count and the listing are accepted and select the same items. -/
theorem of_accepted_operation_items :
    Check.plan Check.itemCatalog (.operation itemCount) .byRules = .ok () ∧
      Check.plan Check.itemCatalog (.operation itemListing) .byRules = .ok () ∧
      ∃ counts lists, ofOperation Check.itemCatalog itemCount = .ok counts ∧
        ofOperation Check.itemCatalog itemListing = .ok lists ∧
        placeholders counts.text = 2 ∧ counts.conditionText = lists.conditionText ∧
        counts.parameters = lists.parameters := by
  obtain ⟨compiles, agree⟩ := of_accepted_operation Check.itemCatalog .byRules
  have countAccepted : Check.plan Check.itemCatalog (.operation itemCount) .byRules = .ok () := rfl
  have listingAccepted : Check.plan Check.itemCatalog (.operation itemListing) .byRules = .ok () :=
    rfl
  obtain ⟨counts, ofCounting, -, marks, -⟩ := compiles itemCount countAccepted
  obtain ⟨lists, ofListing, -⟩ := compiles itemListing listingAccepted
  obtain ⟨-, sameText, sameParameters⟩ := agree itemCount itemListing counts lists
    (by decide +kernel) (by decide +kernel) rfl rfl ofCounting ofListing
  have two : counts.parameters.length = 2 := by
    obtain rfl := Except.ok.inj ofCounting
    rfl
  exact ⟨countAccepted, listingAccepted, counts, lists, ofCounting, ofListing, marks.trans two,
    sameText, sameParameters⟩

end Selection

end Inquiry
