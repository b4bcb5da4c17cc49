import Inquiry.Plan.Settled
import Inquiry.Proofs.Outcomes
import Mathlib.Data.List.Induction
import Mathlib.Data.List.Sort

/-!
# Operations written as documents

An operation can be written down as a plan document in two ways, which differ
in the filters: a list of triples keeps the conditions in their order, fields
that stand twice included, and an object from fields to pairs keeps them by
field.  Settling such a document gives the operation back, with its conditions
in order or sorted by field (`plan_of_written`).

A pair of an object has the shape of a list of two values too.  It is read as a
pair because its comparison is one; that is what the second form needs beyond
distinct fields, and the first does not.
-/

set_option autoImplicit false

namespace Inquiry

namespace Json

/-! ## Members in order -/

/-- Whether a member stands in front of another one in an object. -/
def Below (first second : String × Json) : Prop := first.1 < second.1

theorem mem_of_mem_putMember {name : String} {value : Json} {members : List (String × Json)}
    {member : String × Json} (given : member ∈ putMember name value members) :
    member = (name, value) ∨ member ∈ members := by
  induction members with
  | nil => exact .inl (List.mem_singleton.1 given)
  | cons first rest ih =>
      rw [putMember] at given
      split at given
      · exact List.mem_cons.1 given
      · split at given
        · exact (List.mem_cons.1 given).imp_right (List.mem_cons_of_mem _)
        · rcases List.mem_cons.1 given with rfl | inRest
          · exact .inr (List.mem_cons_self ..)
          · exact (ih inRest).imp_right (List.mem_cons_of_mem _)

/-- Putting a member keeps the order of names. -/
theorem pairwise_putMember (name : String) (value : Json) {members : List (String × Json)}
    (ordered : members.Pairwise Below) : (putMember name value members).Pairwise Below := by
  induction members with
  | nil => exact List.pairwise_singleton ..
  | cons first rest ih =>
      obtain ⟨key, old⟩ := first
      have ⟨firstBelow, restOrdered⟩ := List.pairwise_cons.1 ordered
      rw [putMember]
      split
      case isTrue inFront =>
        refine List.pairwise_cons.2 ⟨fun later member => ?_, ordered⟩
        rcases List.mem_cons.1 member with rfl | inRest
        · exact inFront
        · exact String.lt_trans inFront (firstBelow later inRest)
      case isFalse notInFront =>
        split
        case isTrue replaces =>
          subst replaces
          exact List.pairwise_cons.2 ⟨firstBelow, restOrdered⟩
        case isFalse differs =>
          refine List.pairwise_cons.2 ⟨fun later member => ?_, ih restOrdered⟩
          rcases mem_of_mem_putMember member with rfl | inRest
          · exact Std.lt_of_le_of_ne (String.not_lt.1 notInFront) (Ne.symm differs)
          · exact firstBelow later inRest

/-- The members of an object stand in the order of their names. -/
theorem pairwise_orderMembers (members : List (String × Json)) :
    (orderMembers members).Pairwise Below := by
  induction members using List.reverseRecOn with
  | nil => exact .nil
  | append_singleton front last ih =>
      rw [orderMembers, List.foldl_append]
      exact pairwise_putMember last.1 last.2 ih

/-- Putting a member with a new name adds it and nothing else. -/
theorem perm_putMember {name : String} (value : Json) {members : List (String × Json)}
    (isNew : name ∉ members.map Prod.fst) :
    (putMember name value members).Perm ((name, value) :: members) := by
  induction members with
  | nil => exact .refl _
  | cons first rest ih =>
      rw [List.map_cons, List.mem_cons, not_or] at isNew
      rw [putMember]
      split
      · exact .refl _
      · rw [if_neg isNew.1]
        exact ((ih isNew.2).cons first).trans (.swap ..)

/-- An object has the members of a list in which no name stands twice. -/
theorem perm_orderMembers {members : List (String × Json)}
    (distinct : (members.map Prod.fst).Nodup) : (orderMembers members).Perm members := by
  induction members using List.reverseRecOn with
  | nil => exact .refl _
  | append_singleton front last ih =>
      rw [List.map_append, List.map_singleton, List.nodup_append] at distinct
      obtain ⟨frontDistinct, -, apart⟩ := distinct
      have inFront := ih frontDistinct
      have isNew : last.1 ∉ (orderMembers front).map Prod.fst := fun member =>
        apart last.1 ((inFront.map Prod.fst).mem_iff.1 member) last.1 (List.mem_singleton_self _)
          rfl
      have put : (orderMembers (front ++ [last])).Perm (last :: orderMembers front) := by
        rw [orderMembers, List.foldl_append]
        exact perm_putMember last.2 isNew
      exact (put.trans (inFront.cons last)).trans (List.perm_append_singleton last front).symm

/-- An object is known by its members when no name stands twice and they stand in order. -/
theorem orderMembers_eq {members ordered : List (String × Json)}
    (distinct : (members.map Prod.fst).Nodup) (perm : ordered.Perm members)
    (inOrder : ordered.Pairwise Below) : orderMembers members = ordered := by
  have notBoth (first second : String × Json) :
      first ∈ orderMembers members → second ∈ ordered → Below first second → Below second first →
        first = second := fun _ _ below above => absurd above (String.lt_asymm below)
  exact List.Perm.eq_of_pairwise notBoth (pairwise_orderMembers members) inOrder
    ((perm_orderMembers distinct).trans perm.symm)

end Json

/-! ## Conditions -/

namespace Condition

/-- A condition as a triple of its field, its comparison and its value. -/
def triple (condition : Condition) : Json :=
  .array [.string condition.field, .string condition.comparison, condition.value]

/-- A condition as a member from its field to a pair of its comparison and its value. -/
def pair (condition : Condition) : String × Json :=
  (condition.field, .array [.string condition.comparison, condition.value])

/-- Conditions sorted by field; those of one field keep their order. -/
def byField (conditions : List Condition) : List Condition :=
  conditions.mergeSort fun first second => first.field ≤ second.field

/-- When no field stands twice, the sorted conditions have rising fields. -/
theorem pairwise_byField {conditions : List Condition}
    (distinct : (conditions.map field).Nodup) :
    (byField conditions).Pairwise fun first second => first.field < second.field := by
  have rising : (byField conditions).Pairwise fun first second => first.field ≤ second.field := by
    refine (List.pairwise_mergeSort ?_ ?_ conditions).imp of_decide_eq_true
    · intro first second third
      simpa using String.le_trans
    · intro first second
      simpa using String.le_total first.field second.field
  have apart : ((byField conditions).map field).Nodup :=
    ((List.mergeSort_perm ..).map field).nodup_iff.2 distinct
  exact (rising.and (List.pairwise_map.1 apart)).imp fun both =>
    Std.lt_of_le_of_ne both.1 both.2

/-- The object of pairs has them sorted by field. -/
theorem orderMembers_pair {conditions : List Condition}
    (distinct : (conditions.map field).Nodup) :
    Json.orderMembers (conditions.map pair) = (byField conditions).map pair := by
  refine Json.orderMembers_eq ?_ ((List.mergeSort_perm ..).map pair) ?_
  · rwa [List.map_map]
  · exact List.pairwise_map.2 (pairwise_byField distinct)

end Condition

namespace PlanDocument

theorem conditions_triples (filters : List Condition) :
    conditions (some (.array (filters.map Condition.triple))) = .ok filters :=
  mapM_eq_ok_iff.2 (List.forall₂_map_left_iff.2 (List.forall₂_same.2 fun _ _ => rfl))

theorem conditionOfMember_pair {condition : Condition}
    (compares : (Comparison.ofText? condition.comparison).isSome) :
    conditionOfMember condition.pair.1 condition.pair.2 = .ok condition := by
  simp [Condition.pair, conditionOfMember, compares]

theorem conditions_pairs {filters : List Condition} (distinct : (filters.map (·.field)).Nodup)
    (compare : ∀ condition ∈ filters, (Comparison.ofText? condition.comparison).isSome) :
    conditions (some (Json.ofMembers (filters.map Condition.pair))) =
      .ok (Condition.byField filters) := by
  rw [Json.ofMembers, Condition.orderMembers_pair distinct]
  -- Every pair is read for itself; that they are sorted has been settled by the object.
  refine mapM_eq_ok_iff.2 (List.forall₂_map_left_iff.2 (List.forall₂_same.2 ?_))
  intro condition member
  exact conditionOfMember_pair (compare condition ((List.mergeSort_perm ..).mem_iff.1 member))

end PlanDocument

/-! ## Operations -/

/-- A text that is not empty and has no blanks around it. -/
def IsLabel (text : String) : Prop := text ≠ "" ∧ Text.trimmed text = text

instance (text : String) : Decidable (IsLabel text) :=
  inferInstanceAs (Decidable (text ≠ "" ∧ Text.trimmed text = text))

/-- An operation whose texts have no blanks around them and are not empty, and whose limit is an
integer of 64 bits. -/
structure Operation.IsTidy (operation : Operation) : Prop where
  name : IsLabel operation.name
  doctype : ∀ text ∈ operation.parameters.doctype, IsLabel text
  orderBy : ∀ text ∈ operation.parameters.orderBy, IsLabel text
  record : ∀ text ∈ operation.parameters.name, IsLabel text
  limit : ∀ limit ∈ operation.parameters.limit, Word.fitsSigned limit = true

/-- Members that hold the parameters of an operation, its conditions written as `filters`. -/
structure Parameters.HeldBy (parameters : Parameters) (filters : Json)
    (members : List (String × Json)) : Prop where
  doctype : Json.lookUp "doctype" members = parameters.doctype.map .string
  orderBy : Json.lookUp "order_by" members = parameters.orderBy.map .string
  record : Json.lookUp "name" members = parameters.name.map .string
  limit : Json.lookUp "limit" members = parameters.limit.map Json.integer
  filters : Json.lookUp "filters" members = some filters

/-- The members that hold the parameters of an operation and nothing else. -/
def Parameters.members (parameters : Parameters) (filters : Json) : List (String × Json) :=
  let written (name : String) (value : Option Json) : List (String × Json) :=
    (value.map (name, ·)).toList
  written "doctype" (parameters.doctype.map .string) ++ [("filters", filters)] ++
    written "limit" (parameters.limit.map Json.integer) ++
    written "name" (parameters.name.map .string) ++
    written "order_by" (parameters.orderBy.map .string)

/-- The document of an operation whose conditions are written as `filters`. -/
def Operation.document (operation : Operation) (filters : Json) : PlanDocument where
  executionType := some "direct_api"
  apiName := some operation.name
  parameters := some (.object (operation.parameters.members filters))

theorem Parameters.heldBy_members (parameters : Parameters) (filters : Json) :
    parameters.HeldBy filters (parameters.members filters) := by
  obtain ⟨doctype, conditions, limit, orderBy, name⟩ := parameters
  constructor <;> cases doctype <;> cases limit <;> cases orderBy <;> cases name <;> rfl

namespace PlanDocument

variable {operation : Operation} {members : List (String × Json)} {filters : Json}

theorem textParameter_of_lookUp {name : String} {text : Option String}
    (held : Json.lookUp name members = text.map .string) (isLabel : ∀ given ∈ text, IsLabel given) :
    textParameter name members = text := by
  rw [textParameter, held]
  cases text with
  | none => rfl
  | some text =>
      have ⟨notEmpty, isTrimmed⟩ := isLabel text rfl
      simp [Json.string?, isTrimmed, notEmpty]

theorem limitParameter_of_lookUp {limit : Option Int}
    (held : Json.lookUp "limit" members = limit.map Json.integer)
    (fits : ∀ given ∈ limit, Word.fitsSigned given = true) :
    limitParameter members = .ok limit := by
  rw [limitParameter, held]
  cases limit with
  | none => rfl
  | some limit => simp [Json.integer, Number.integer?, fits limit rfl]

/-- A document that holds an operation settles to it, with the conditions that its filters mean. -/
theorem plan_of_heldBy (catalog : Catalog) {document : PlanDocument}
    (direct : document.executionType = some "direct_api")
    (named : document.apiName = some operation.name)
    (given : document.parameters = some (.object members)) (tidy : operation.IsTidy)
    (held : operation.parameters.HeldBy filters members) {meant : List Condition}
    (means : conditions (some filters) = .ok meant) :
    document.plan catalog =
      .ok (.operation ⟨operation.name, { operation.parameters with filters := meant }⟩) := by
  have directs : document.direction = .ok .operation := by
    rw [direction, direct]
    rfl
  have parameters : operationParameters document.parameters =
      .ok { operation.parameters with filters := meant } := by
    rw [given, operationParameters, held.filters, textParameter_of_lookUp held.doctype tidy.doctype,
      textParameter_of_lookUp held.orderBy tidy.orderBy,
      textParameter_of_lookUp held.record tidy.record,
      limitParameter_of_lookUp held.limit tidy.limit, means]
    rfl
  have reads : document.operationPlan =
      .ok ⟨operation.name, { operation.parameters with filters := meant }⟩ := by
    rw [operationPlan, parameters, named]
    simp [tidy.name.1, tidy.name.2]
  rw [plan, directs, bind_eq_ok_iff]
  exact ⟨.operation, rfl, bind_eq_ok_iff.2 ⟨_, reads, rfl⟩⟩

/-- **Settling a document gives the operation that was written**: its conditions in their order,
fields that stand twice included, when they are written as a list of triples, and sorted by field
when they are written as an object of pairs. -/
theorem plan_of_written (catalog : Catalog) {document : PlanDocument}
    (direct : document.executionType = some "direct_api")
    (named : document.apiName = some operation.name)
    (given : document.parameters = some (.object members)) (tidy : operation.IsTidy) :
    (operation.parameters.HeldBy (.array (operation.parameters.filters.map Condition.triple))
        members → document.plan catalog = .ok (.operation operation)) ∧
    (operation.parameters.HeldBy
        (Json.ofMembers (operation.parameters.filters.map Condition.pair)) members →
      (operation.parameters.filters.map (·.field)).Nodup →
      (∀ condition ∈ operation.parameters.filters,
        (Comparison.ofText? condition.comparison).isSome) →
      document.plan catalog = .ok (.operation ⟨operation.name, { operation.parameters with
        filters := Condition.byField operation.parameters.filters }⟩)) :=
  ⟨fun held => plan_of_heldBy catalog direct named given tidy held (conditions_triples _),
    fun held distinct compare =>
      plan_of_heldBy catalog direct named given tidy held (conditions_pairs distinct compare)⟩

/-- A listing of orders by their status and the state of the document. -/
def orderListing : Operation where
  name := "dynamic_search"
  parameters := {
    doctype := some "Sales Order"
    filters := [⟨"status", "not in", .array [.string "=", .null]⟩, ⟨"docstatus", "<>", .integer 2⟩]
    limit := some (-1)
    orderBy := some "modified desc" }

theorem plan_of_written_orderListing :
    (orderListing.document
      (.array (orderListing.parameters.filters.map Condition.triple))).plan .empty =
        .ok (.operation orderListing) ∧
    (orderListing.document
      (Json.ofMembers (orderListing.parameters.filters.map Condition.pair))).plan .empty =
        .ok (.operation ⟨orderListing.name, { orderListing.parameters with
          filters := Condition.byField orderListing.parameters.filters }⟩) := by
  have tidy : orderListing.IsTidy :=
    ⟨by decide, by decide, by decide, by decide, by decide⟩
  exact ⟨(plan_of_written .empty rfl rfl rfl tidy).1 (Parameters.heldBy_members ..),
    (plan_of_written .empty rfl rfl rfl tidy).2 (Parameters.heldBy_members ..) (by decide)
      (by decide)⟩

end PlanDocument

end Inquiry
