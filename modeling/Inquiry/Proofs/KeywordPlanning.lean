import Inquiry.Proofs.Columns
import Inquiry.Proofs.Downgrading
import Inquiry.Proofs.Responses

/-!
# Plans made by keywords

When the first proposer has no plan, a plan is made by keywords from the entity
detected first.  The plan starts as a JSON document, with the names of members,
fields and operations written out, and is read back like the answer of a model.
What comes out is one operation (`PlanDocument.plan_keywordDocument`), which
becomes a selection whatever the fields of the entity are, for it names none but
standard fields, and every entity has these.

It need not be accepted, though.  A question that asks for drafts compares the
standard field `docstatus` with a number, and the check looks at an own field of
this name first.  So the operation is accepted exactly when an own `docstatus`,
if the entity has one, takes the number (`Router.keyword_fallback`).
-/

set_option autoImplicit false

namespace Inquiry

/-! ## The operation -/

namespace Proposer

/-- The number of the state that a question in lower case asks for. -/
def stateAsked? (question : List Char) : Option Int :=
  (stateWords.find? (fun entry => Text.mentions question entry.1)).map Prod.snd

/-- The operation that keywords suggest for a question about an entity. -/
def keywordOperation (question : String) (entity : Entity) : Operation :=
  let text := Text.lower question.toList
  let kind := kindOf text
  { name := kind.name
    parameters :=
      { doctype := some entity.name
        filters := (stateAsked? text).toList.map fun state =>
          ⟨"docstatus", "=", .integer state⟩
        limit := if kind = .search then some listingLimit else none
        orderBy := if kind = .search then some "modified desc" else none } }

theorem kindOf_eq (question : List Char) :
    kindOf question = .count ∨ kindOf question = .search := by
  rw [kindOf]
  split
  · exact .inl rfl
  · exact .inr rfl

theorem stateFilter_eq (question : List Char) :
    stateFilter question = (stateAsked? question).toList.map fun state =>
      ("filters", Json.ofMembers [("docstatus", .integer state)]) := by
  rw [stateFilter, stateAsked?]
  cases stateWords.find? (fun entry => Text.mentions question entry.1) <;> rfl

/-- There are three states to ask for. -/
theorem mem_of_stateAsked? {question : List Char} {state : Int}
    (asked : stateAsked? question = some state) : state ∈ [0, 1, 2] := by
  obtain ⟨entry, found, rfl⟩ := Option.map_eq_some_iff.1 asked
  have checked : ∀ entry ∈ stateWords, entry.2 ∈ [(0 : Int), 1, 2] := by decide
  exact checked entry (List.mem_of_find?_eq_some found)

end Proposer

namespace PlanDocument

open Proposer

/-- The parameters of a document are read from its members by name. -/
theorem operationParameters_ofMembers {members : List (String × Json)} {limit : Option Int}
    {filters : List Condition}
    (isLimit : limitParameter members.reverse = .ok limit)
    (areFilters : conditions (Json.lookUp "filters" members.reverse) = .ok filters) :
    operationParameters (some (Json.ofMembers members)) = .ok {
      doctype := textParameter "doctype" members.reverse
      filters, limit
      orderBy := textParameter "order_by" members.reverse
      name := textParameter "name" members.reverse } := by
  have inOrder (name : String) :
      Json.lookUp name (Json.orderMembers members) = Json.lookUp name members.reverse :=
    Json.member?_ofMembers name members
  have texts (name : String) : textParameter name (Json.orderMembers members) =
      textParameter name members.reverse := by rw [textParameter, inOrder, ← textParameter]
  have ofLimit : limitParameter (Json.orderMembers members) = .ok limit := by
    rw [← isLimit, limitParameter, inOrder, ← limitParameter]
  rw [← texts, ← texts, ← texts]
  exact bind_eq_ok_iff.2 ⟨limit, ofLimit, bind_eq_ok_iff.2
    ⟨filters, by rw [inOrder]; exact areFilters, rfl⟩⟩

theorem operationParameters_keywordDocument (question : String) {entity : Entity}
    (isNamed : entity.name ≠ "" ∧ Text.trimmed entity.name = entity.name) :
    operationParameters (keywordDocument question entity).parameters =
      .ok (keywordOperation question entity).parameters := by
  have inOrder : Text.trimmed "modified desc" = "modified desc" := rfl
  have kinds := kindOf_eq (Text.lower question.toList)
  rw [keywordDocument, stateFilter_eq, keywordOperation]
  simp only
  generalize kindOf (Text.lower question.toList) = kind at kinds ⊢
  generalize stateAsked? (Text.lower question.toList) = asked
  rcases kinds with rfl | rfl <;> cases asked <;>
    refine (operationParameters_ofMembers rfl rfl).trans ?_ <;>
    simp [listingMembers, textParameter, Json.lookUp, Json.string?, isNamed, inOrder]

/-- **The document that keywords suggest means the operation that they suggest.** -/
theorem plan_keywordDocument (catalog : Catalog) (question : String) {entity : Entity}
    (isNamed : entity.name ≠ "" ∧ Text.trimmed entity.name = entity.name) :
    (keywordDocument question entity).plan catalog =
      .ok (.operation (keywordOperation question entity)) := by
  have directs : (keywordDocument question entity).direction = .ok .operation := by
    have isDirect : Text.lowered (Text.trimmed "direct_api") = "direct_api" := rfl
    rw [direction, keywordDocument]
    simp only [isDirect, if_true]
  have reads : (keywordDocument question entity).operationPlan =
      .ok (keywordOperation question entity) := by
    have isKind (kind : OperationKind) : Text.trimmed kind.name = kind.name ∧ kind.name ≠ "" := by
      cases kind <;> decide
    have parameters := operationParameters_keywordDocument question isNamed
    rw [operationPlan, parameters]
    simp [keywordDocument, keywordOperation, isKind]
  rw [plan, directs, bind_eq_ok_iff]
  exact ⟨.operation, rfl, bind_eq_ok_iff.2 ⟨_, reads, rfl⟩⟩

end PlanDocument

/-! ## Acceptance -/

/-- An entity takes the number of a state when its own `docstatus`, if it has one, is a number, and
can be this one if it is a truth value. -/
def Entity.TakesState (entity : Entity) (state : Int) : Prop :=
  ∀ own ∈ entity.fields.find? (fun field => field.name = "docstatus"),
    own.type.isNumeric ∧ (own.type = .check → state = 0 ∨ state = 1)

instance (entity : Entity) (state : Int) : Decidable (entity.TakesState state) :=
  inferInstanceAs (Decidable (∀ _ ∈ _, _))

namespace Check

variable {catalog : Catalog} {entity : Entity}

/-- A number of a state fits a kind of field when the kind is numeric, and the number is zero or one
if it is a truth value. -/
theorem meets_state_iff {state : Int} (isState : state ∈ [0, 1, 2]) (type : FieldType) :
    meets (.integer state) (expectationOf type) ↔
      type.isNumeric ∧ (type = .check → state = 0 ∨ state = 1) := by
  have checked : ∀ state ∈ [(0 : Int), 1, 2], ∀ type ∈ FieldType.all,
      meets (.integer state) (expectationOf type) ↔
        type.isNumeric ∧ (type = .check → state = 0 ∨ state = 1) := by
    decide
  exact checked state isState type (by cases type <;> decide)

/-- The condition on the state is accepted when the entity takes its number. -/
theorem condition_state_iff {state : Int} (isState : state ∈ [0, 1, 2]) :
    condition entity ⟨"docstatus", "=", .integer state⟩ = .ok () ↔ entity.TakesState state := by
  have isEqual : Comparison.ofText? "=" = some .equal := rfl
  have scalar_iff (field : Field) : scalar field (.integer state) = .ok () ↔
      field.type.isNumeric ∧ (field.type = .check → state = 0 ∨ state = 1) := by
    rw [← meets_state_iff isState, scalar, if_neg (by simp [Json.isNull, Json.integer])]
    split <;> simp [*]
  simp only [condition_eq_ok_iff, fieldOf_eq_ok_iff, Entity.field?, isEqual, Option.some.injEq,
    exists_eq_left', value, scalar_iff, Entity.TakesState]
  cases entity.fields.find? (fun field => field.name = "docstatus") with
  | none => simp [standardField?, standardFields, FieldType.isNumeric]
  | some own => simp

/-- Listings are ordered by a field of every entity. -/
theorem order_modified (entity : Entity) : order entity "modified desc" = .ok () := by
  have words : Text.words "modified desc".toList = ["modified".toList, "desc".toList] := rfl
  have isField := entity.hasField_of_isStandardField
    (show isStandardField "modified" = true by decide)
  obtain ⟨field, found⟩ := Option.isSome_iff_exists.1 isField
  have isDirection : isDirection "desc".toList = true := rfl
  rw [order, words]
  refine bind_eq_ok_iff.2 ⟨field, fieldOf_eq_ok_iff.2 found, ?_⟩
  simp only [List.tail_cons, isDirection, if_true]
  rfl

theorem order_keywordOperation (entity : Entity) (question : String) :
    ∀ orderBy ∈ (Proposer.keywordOperation question entity).parameters.orderBy,
      order entity orderBy = .ok () := by
  intro orderBy given
  obtain ⟨-, ordered⟩ := Option.mem_ite_none_right.1 given
  obtain rfl := Option.some.inj ordered
  exact order_modified entity

/-- The operation that keywords suggest is accepted exactly when the entity takes the number of the
state that is asked for. -/
theorem plan_keywordOperation_iff (parser : Sql.Parser) (question : String)
    (known : catalog.get? entity.name = some entity) :
    plan catalog (.operation (Proposer.keywordOperation question entity)) parser = .ok () ↔
      ∀ state ∈ Proposer.stateAsked? (Text.lower question.toList), entity.TakesState state := by
  have meant : catalog.entity? entity.name = some entity := by rw [Catalog.entity?, known]
  have isKind : (Proposer.keywordOperation question entity).kind? =
      some (Proposer.kindOf (Text.lower question.toList)) := OperationKind.ofText?_name _
  have notDetails : Proposer.kindOf (Text.lower question.toList) ≠ .details := by
    rcases Proposer.kindOf_eq (Text.lower question.toList) with isKind | isKind <;>
      rw [isKind] <;> decide
  rw [plan, operation_eq_ok_iff]
  constructor
  · rintro ⟨kind, doctype, other, -, ofDoctype, ofOther, -, conditions, -⟩ state asked
    obtain rfl := Option.some.inj ofDoctype
    obtain rfl := Option.some.inj (meant.symm.trans ofOther)
    refine (condition_state_iff (Proposer.mem_of_stateAsked? asked)).1 (conditions _ ?_)
    exact List.mem_map.2 ⟨state, Option.mem_toList.2 asked, rfl⟩
  · intro takes
    refine ⟨_, _, entity, isKind, rfl, meant, fun both => notDetails both.1, ?_, ?_, ?_⟩
    · intro one member
      obtain ⟨state, asked, rfl⟩ := List.mem_map.1 member
      have isAsked := Option.mem_toList.1 asked
      exact (condition_state_iff (Proposer.mem_of_stateAsked? isAsked)).2 (takes state isAsked)
    · exact order_keywordOperation entity question
    · intro bound given
      obtain ⟨-, limited⟩ := Option.mem_ite_none_right.1 given
      obtain rfl := Option.some.inj limited
      rfl

end Check

/-- The operation that keywords suggest becomes a selection, whatever fields the entity has. -/
theorem Selection.exists_keywordOperation {catalog : Catalog} {entity : Entity} (question : String)
    (known : catalog.get? entity.name = some entity) :
    ∃ selection, ofOperation catalog (Proposer.keywordOperation question entity) = .ok selection ∧
      selection.IsAbout entity (Proposer.keywordOperation question entity) := by
  have meant : catalog.entity? entity.name = some entity := by rw [Catalog.entity?, known]
  have isKind : (Proposer.keywordOperation question entity).kind? =
      some (Proposer.kindOf (Text.lower question.toList)) := OperationKind.ofText?_name _
  have isEqual : Comparison.ofText? "=" = some .equal := rfl
  have each : ∀ condition ∈ (Proposer.keywordOperation question entity).parameters.filters,
      IsClauseOf entity condition (clauseOf condition.field .equal condition.value) := by
    intro condition member
    obtain ⟨state, -, rfl⟩ := List.mem_map.1 member
    have isStandard : isStandardField "docstatus" = true := by decide
    exact ⟨entity.hasField_of_isStandardField isStandard, .equal, isEqual, rfl⟩
  have ofFilters := List.forall₂_map_right_iff.2 (List.forall₂_same.2 each)
  obtain ⟨named, ofName⟩ : ∃ named, nameClauses
      (Proposer.kindOf (Text.lower question.toList)) none = .ok named := by
    rcases Proposer.kindOf_eq (Text.lower question.toList) with isKind | isKind <;>
      exact ⟨[], by rw [isKind]; rfl⟩
  obtain ⟨wanted, ofWanted⟩ := exists_wantedOf (Proposer.kindOf (Text.lower question.toList))
    (Check.order_keywordOperation entity question)
  have made := ofOperation_eq_ok_iff.2 ⟨_, _, entity, named, _, wanted, isKind, rfl, meant,
    ofName, ofFilters, ofWanted, rfl⟩
  obtain ⟨doctype, other, ofDoctype, ofOther, about⟩ := isAbout_of_ofOperation made
  obtain rfl := Option.some.inj ofDoctype
  obtain rfl := Option.some.inj (meant.symm.trans ofOther)
  exact ⟨_, made, about⟩

/-! ## Routing -/

namespace Router

variable {router : Router} {catalog : Catalog} {request : PlanningRequest}

/-- Asking a proposer fails when it answers without a document that means a plan. -/
theorem exists_consult_eq_error {proposer : Proposer} {proposal : Proposal}
    (answers : proposer.propose request = some proposal)
    (noPlan : ∀ document plan, proposal.outcome = .ok document →
      document.plan catalog ≠ .ok plan) :
    ∃ fault, consult catalog request proposer = some ⟨.error fault, proposal.took⟩ := by
  obtain ⟨outcome, took⟩ := proposal
  cases reached : outcome.bind (settle catalog proposer.name) with
  | error fault => exact ⟨fault, by rw [consult, answers, Option.map_some, reached]⟩
  | ok routed =>
      obtain ⟨document, isDocument, settled⟩ := bind_eq_ok_iff.1 reached
      obtain ⟨plan, means, -⟩ := bind_eq_ok_iff.1 settled
      exact absurd (eq_ok_of_mapError_eq_ok means) (noPlan document plan isDocument)

/-- An operation is allowed whatever the settings say of generated queries. -/
theorem allowed_operation (settings : RoutingSettings) (detected : List Detected)
    {routed : RoutedPlan} {given : Operation} (isOperation : routed.plan = .operation given) :
    allowed settings detected routed = .ok routed := by
  rw [allowed, downgrade, isOperation]
  exact ite_self _

/-- An operation that the proposers come to is where the question is routed. -/
theorem route_operation {question : String} {detected : List Detected} {routed : RoutedPlan}
    {given : Operation} {took : Nat}
    (consulted : router.consultAll catalog (.ofDetected catalog question detected) =
      some ⟨.ok routed, took⟩)
    (isOperation : routed.plan = .operation given) :
    router.route catalog question detected = some ⟨.ok routed, took⟩ := by
  have isAllowed := allowed_operation router.settings detected isOperation
  rw [route, consulted, Option.map_some, Except.bind, isAllowed]

/-- Where the first proposer answers without a plan and keywords are the fallback, a question in
which an entity is detected is routed to the operation that keywords suggest for it. -/
theorem route_keywordOperation {settings : DetectionSettings} {question : String} {top : Detected}
    {others : List Detected} {proposal : Proposal}
    (detects : Detection.detect settings catalog question = top :: others)
    (fallsBack : router.fallback = some .rules)
    (answers : router.primary.propose (.ofDetected catalog question (top :: others)) =
      some proposal)
    (noPlan : ∀ document plan, proposal.outcome = .ok document →
      document.plan catalog ≠ .ok plan) :
    ∃ entity, catalog.get? top.entityName = some entity ∧
      router.route catalog question (top :: others) =
        some ⟨.ok ⟨.operation (Proposer.keywordOperation question entity),
          (Proposer.keywordDocument question entity).reasoning, Proposer.rules.name⟩,
          proposal.took⟩ := by
  have known := Detection.known_detect settings catalog question top
    (detects ▸ List.mem_cons_self ..)
  obtain ⟨entity, found⟩ := Option.isSome_iff_exists.1 known
  have isTop : (PlanningRequest.ofDetected catalog question (top :: others)).topEntity? =
      some entity := by
    simp [PlanningRequest.topEntity?, PlanningRequest.ofDetected, found]
  have isNamed := catalog.named entity (List.mem_of_find?_eq_some found)
  have means : Proposer.rules.Means catalog (.ofDetected catalog question (top :: others))
      (Proposer.keywordDocument question entity)
      (.operation (Proposer.keywordOperation question entity)) 0 := by
    refine ⟨?_, PlanDocument.plan_keywordDocument catalog question isNamed⟩
    rw [Proposer.rules]
    simp only
    rw [isTop]
    rfl
  obtain ⟨fault, fails⟩ := exists_consult_eq_error answers noPlan
  have consulted := consultAll_eq_ok_iff.2 ⟨_, _, _, .fallback fails fallsBack means, rfl⟩
  exact ⟨entity, found, route_operation consulted rfl⟩

/-- **The fallback by keywords.**

Where the first proposer answers without a plan, and keywords are the fallback, routing succeeds for
every question in which an entity is detected: with one operation on the entity detected first,
which becomes a selection from the table of this entity.  It is accepted exactly when the entity
takes the state that the question asks for. -/
theorem keyword_fallback (settings : DetectionSettings) (parser : Sql.Parser) (question : String)
    {top : Detected} {others : List Detected} {proposal : Proposal}
    (detects : Detection.detect settings catalog question = top :: others)
    (fallsBack : router.fallback = some .rules)
    (answers : router.primary.propose (.ofDetected catalog question (top :: others)) =
      some proposal)
    (noPlan : ∀ document plan, proposal.outcome = .ok document →
      document.plan catalog ≠ .ok plan) :
    ∃ entity routed given selection,
      entity ∈ catalog.entities ∧ entity.name = top.entityName ∧
      router.route catalog question (top :: others) = some ⟨.ok routed, proposal.took⟩ ∧
      routed.proposer = Proposer.rules.name ∧ routed.plan = .operation given ∧
      given.parameters.doctype = some top.entityName ∧
      Selection.ofOperation catalog given = .ok selection ∧ selection.IsAbout entity given ∧
      (Check.plan catalog (.operation given) parser = .ok () ↔
        ∀ state ∈ Proposer.stateAsked? (Text.lower question.toList), entity.TakesState state) := by
  obtain ⟨entity, found, routes⟩ := route_keywordOperation detects fallsBack answers noPlan
  have isNamed : entity.name = top.entityName := by simpa using List.find?_some found
  have member := List.mem_of_find?_eq_some found
  rw [← isNamed] at found
  obtain ⟨selection, made, about⟩ := Selection.exists_keywordOperation question found
  exact ⟨entity, _, Proposer.keywordOperation question entity, selection, member, isNamed, routes,
    rfl, rfl, congrArg some isNamed, made, about,
    Check.plan_keywordOperation_iff parser question found⟩

/-- A router whose first proposer fails and whose fallback works by keywords. -/
def keywordRouter : Router where
  primary := .fixed (.error (.planning .noEntity))
  fallback := some .rules

/-- What is detected in a question about drafts of items. -/
def itemsFound : List Detected :=
  [⟨"Item", Double.ofDecimal false 9 (-1), true, "items"⟩]

/-- Drafts of items without own fields are listed. -/
theorem keyword_fallback_items :
    ∃ routed given, keywordRouter.route Check.itemCatalog "draft items" itemsFound =
        some ⟨.ok routed, 0⟩ ∧ routed.plan = .operation given ∧
      given.parameters.doctype = some "Item" ∧
      Check.plan Check.itemCatalog (.operation given) .byRules = .ok () := by
  have detects : Detection.detect {} Check.itemCatalog "draft items" = itemsFound := by
    decide +kernel
  obtain ⟨entity, routed, given, selection, member, -, routes, -, isOperation, ofDoctype, -, -,
    accepted⟩ := keyword_fallback {} .byRules "draft items" detects
      (show keywordRouter.fallback = some .rules from rfl) rfl
        fun _ _ answered => nomatch answered
  obtain rfl := List.mem_singleton.1 member
  exact ⟨routed, given, routes, isOperation, ofDoctype, accepted.2 fun state _ => nofun⟩

theorem shadowing_isNamed : Catalog.shadowing.name ≠ "" ∧
    Text.trimmed Catalog.shadowing.name = Catalog.shadowing.name := ⟨by decide, rfl⟩

/-- Drafts of items whose own `docstatus` is free text are asked for by a number, which is
refused. -/
theorem keyword_fallback_shadowing :
    ∃ catalog routed given, Catalog.ofEntities [Catalog.shadowing] = .ok catalog ∧
      Detection.detect {} catalog "draft items" = itemsFound ∧
      keywordRouter.route catalog "draft items" itemsFound = some ⟨.ok routed, 0⟩ ∧
      routed.plan = .operation given ∧
      Check.plan catalog (.operation given) .byRules ≠ .ok () := by
  have built : Catalog.ofEntities [Catalog.shadowing] =
      .ok (.alone Catalog.shadowing shadowing_isNamed) :=
    Catalog.ofEntities_eq_ok (by decide +kernel)
  have detects : Detection.detect {} (.alone Catalog.shadowing shadowing_isNamed) "draft items" =
      itemsFound := by decide +kernel
  obtain ⟨entity, found, routes⟩ := route_keywordOperation detects
    (show keywordRouter.fallback = some .rules from rfl) rfl
        fun _ _ answered => nomatch answered
  obtain rfl := List.mem_singleton.1 (List.mem_of_find?_eq_some found)
  refine ⟨_, _, _, built, detects, routes, rfl, ?_⟩
  intro accepted
  have takes := (Check.plan_keywordOperation_iff .byRules "draft items" found).1 accepted 0
    (by decide +kernel)
  exact absurd takes (by decide +kernel)

end Router

end Inquiry
