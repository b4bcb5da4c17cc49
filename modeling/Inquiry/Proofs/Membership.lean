import Inquiry.Proofs.Compiling

/-!
# Membership and equality

A field is among values where it equals one of them, and is not among them where it
differs from each.  The clauses that conditions become should say the same of every
row.  They have three truth values: a comparison with null is unknown, and a list
that holds an unknown comparison is true or unknown, never false
(`Truth.any_eq_some_false_iff`).

Conditions of equality do not meet this, since null on its own becomes a clause that
is never unknown.  In a list null stays a value like others, and nothing compares with
it.  So the two ways of asking part where a list holds null, which a field that may be
empty accepts: a row without a value is not found among the values, and no row at all
is found outside of them.  Without null in the list they say the same of every row
(`membership_selects_iff`).
-/

set_option autoImplicit false

namespace Inquiry

/-! ## Truth values of lists -/

namespace Truth

theorem not_eq_some_true_iff {truth : Truth} : truth.not = some true ↔ truth = some false := by
  rcases truth with _ | _ | _ <;> decide

theorem or_eq_some_true_iff {left right : Truth} :
    left.or right = some true ↔ left = some true ∨ right = some true := by
  rcases left with _ | _ | _ <;> rcases right with _ | _ | _ <;> decide

theorem or_eq_some_false_iff {left right : Truth} :
    left.or right = some false ↔ left = some false ∧ right = some false := by
  rcases left with _ | _ | _ <;> rcases right with _ | _ | _ <;> decide

/-- One of several truth values holds if one is true, whether or not others are unknown. -/
theorem any_eq_some_true_iff {truths : List Truth} :
    any truths = some true ↔ some true ∈ truths := by
  induction truths with
  | nil => exact iff_of_false nofun List.not_mem_nil
  | cons first rest ih =>
      rw [any, List.foldr_cons, or_eq_some_true_iff, ← any, ih, List.mem_cons, eq_comm]

/-- None of several truth values holds only if each is false and none unknown. -/
theorem any_eq_some_false_iff {truths : List Truth} :
    any truths = some false ↔ ∀ truth ∈ truths, truth = some false := by
  induction truths with
  | nil => exact iff_of_true rfl (List.forall_mem_nil _)
  | cons first rest ih =>
      rw [any, List.foldr_cons, or_eq_some_false_iff, ← any, ih, List.forall_mem_cons]

end Truth

/-! ## Comparisons with null -/

@[simp] theorem SqlValue.order?_null_left (value : SqlValue) :
    SqlValue.order? .null value = none := by
  cases value <;> rfl

@[simp] theorem SqlValue.order?_null_right (value : SqlValue) :
    SqlValue.order? value .null = none := by
  cases value <;> rfl

@[simp] theorem SqlValue.compared_null (type : Option ColumnType) :
    SqlValue.compared type .null = .null := by
  rcases type with _ | _ | _ | _ <;> rfl

/-- Nothing is known to equal null. -/
@[simp] theorem Comparison.truth_equal_null (operand : Operand) :
    Comparison.equal.truth operand .null = none := by
  simp [Comparison.truth]

/-- An operand that is null is not known to equal anything. -/
theorem Comparison.truth_equal_of_null {operand : Operand} (isNull : operand.value = .null)
    (value : SqlValue) : Comparison.equal.truth operand value = none := by
  simp [Comparison.truth, isNull]

/-- To differ is the opposite of being equal. -/
theorem Comparison.truth_notEqual (operand : Operand) (value : SqlValue) :
    Comparison.notEqual.truth operand value = (Comparison.equal.truth operand value).not := by
  simp only [Comparison.truth, Truth.not, Option.map_map]
  rfl

/-! ## Clauses of equality and membership -/

theorem Clause.selects_iff {clause : Clause} {row : String → Operand} :
    clause.selects row = true ↔ clause.truth row = some true := decide_eq_true_iff

namespace Selection

variable {column : String} {row : String → Operand}

/-- Other than for null, a condition of equality compares with the value. -/
theorem selects_equal_iff {value : Json} (notNull : value ≠ .null) :
    (clauseOf column .equal value).selects row = true ↔
      Comparison.equal.truth (row column) (.ofJson value) = some true := by
  rw [Clause.selects_iff]
  cases value
  case null => exact absurd rfl notNull
  all_goals rfl

/-- Other than for null, a condition of difference is the opposite comparison. -/
theorem selects_notEqual_iff {value : Json} (notNull : value ≠ .null) :
    (clauseOf column .notEqual value).selects row = true ↔
      Comparison.equal.truth (row column) (.ofJson value) = some false := by
  rw [Clause.selects_iff, ← Truth.not_eq_some_true_iff, ← Comparison.truth_notEqual]
  cases value
  case null => exact absurd rfl notNull
  all_goals rfl

/-- Equality with null holds where there is no value. -/
theorem selects_equal_null_iff :
    (clauseOf column .equal .null).selects row = true ↔ (row column).value = .null := by
  simp [Clause.selects_iff, clauseOf, Clause.truth]

/-- A field is found among values where it equals one that is not null. -/
theorem selects_isIn_iff {values : List Json} :
    (clauseOf column .isIn (.array values)).selects row = true ↔
      ∃ value ∈ values, value ≠ .null ∧ (clauseOf column .equal value).selects row = true := by
  have asTruth : (clauseOf column .isIn (.array values)).truth row =
      Truth.any ((values.map SqlValue.ofJson).map (Comparison.equal.truth (row column))) := rfl
  rw [Clause.selects_iff, asTruth, Truth.any_eq_some_true_iff, List.map_map, List.mem_map]
  apply exists_congr
  intro value
  apply and_congr_right
  intro _
  by_cases isNull : value = .null
  · simp [isNull, SqlValue.ofJson]
  · simp [isNull, selects_equal_iff]

/-- A field is found outside of values where it differs from each and none is null. -/
theorem selects_notIn_iff {values : List Json} :
    (clauseOf column .notIn (.array values)).selects row = true ↔
      Json.null ∉ values ∧
        ∀ value ∈ values, (clauseOf column .notEqual value).selects row = true := by
  have asTruth : (clauseOf column .notIn (.array values)).truth row =
      (Truth.any ((values.map SqlValue.ofJson).map (Comparison.equal.truth (row column)))).not :=
    rfl
  rw [Clause.selects_iff, asTruth, Truth.not_eq_some_true_iff, Truth.any_eq_some_false_iff,
    List.map_map, List.forall_mem_map]
  constructor
  · intro differs
    have noNull : Json.null ∉ values := by
      intro member
      have ofNull := differs .null member
      simp [SqlValue.ofJson] at ofNull
    exact ⟨noNull, fun value member =>
      (selects_notEqual_iff (ne_of_mem_of_not_mem member noNull)).2 (differs value member)⟩
  · rintro ⟨noNull, differs⟩ value member
    exact (selects_notEqual_iff (ne_of_mem_of_not_mem member noNull)).1 (differs value member)

/-- Being among values is equalling one of them, except in a row without a value if null is one. -/
theorem isIn_agrees_iff {values : List Json} :
    ((clauseOf column .isIn (.array values)).selects row = true ↔
        ∃ value ∈ values, (clauseOf column .equal value).selects row = true) ↔
      ¬ (Json.null ∈ values ∧ (row column).value = .null) := by
  rw [selects_isIn_iff]
  constructor
  · rintro agrees ⟨member, isNull⟩
    obtain ⟨value, -, notNull, selected⟩ :=
      agrees.2 ⟨.null, member, selects_equal_null_iff.2 isNull⟩
    rw [selects_equal_iff notNull, Comparison.truth_equal_of_null isNull] at selected
    cases selected
  · intro apart
    refine ⟨fun ⟨value, member, _, selected⟩ => ⟨value, member, selected⟩, ?_⟩
    rintro ⟨value, member, selected⟩
    refine ⟨value, member, ?_, selected⟩
    rintro rfl
    exact apart ⟨member, selects_equal_null_iff.1 selected⟩

/-- Being outside of values is differing from each, except in a row that does so if null is one. -/
theorem notIn_agrees_iff {values : List Json} :
    ((clauseOf column .notIn (.array values)).selects row = true ↔
        ∀ value ∈ values, (clauseOf column .notEqual value).selects row = true) ↔
      ¬ (Json.null ∈ values ∧
        ∀ value ∈ values, (clauseOf column .notEqual value).selects row = true) := by
  rw [selects_notIn_iff]
  tauto

end Selection

/-! ## Accepted lists -/

namespace Check

/-- A list is accepted for a field when it is not empty and each of its values is. -/
theorem scalars_eq_ok_iff {field : Field} {values : List Json} :
    scalars field values = .ok () ↔ ∀ value ∈ values, scalar field value = .ok () := by
  induction values with
  | nil => exact iff_of_true rfl (List.forall_mem_nil _)
  | cons first rest ih => rw [scalars, then_eq_ok_iff, ih, List.forall_mem_cons]

/-- Values are accepted as a list when there are some and each is accepted as one to be equal to. -/
theorem value_isIn_eq_ok_iff {field : Field} {values : List Json} :
    value field .isIn (.array values) = .ok () ↔
      values ≠ [] ∧ ∀ one ∈ values, value field .equal one = .ok () := by
  cases values with
  | nil => exact iff_of_false nofun (fun accepted => accepted.1 rfl)
  | cons first rest =>
      exact scalars_eq_ok_iff.trans (and_iff_right (List.cons_ne_nil first rest)).symm

/-- Null is accepted only for a field that may be empty. -/
theorem nullable_of_scalar_null {field : Field} (accepted : scalar field .null = .ok ()) :
    field.nullable = true := by
  by_contra required
  simp [scalar, required, Json.isNull] at accepted

end Check

/-! ## Conditions -/

/-- Whether a row is selected by the clause of a condition on an entity. -/
def Condition.selects (entity : Entity) (condition : Condition) (row : String → Operand) : Bool :=
  (Selection.clause entity condition).toOption.any (·.selects row)

namespace Condition

/-- A condition on a field selects by the clause of its comparison. -/
theorem selects_eq {entity : Entity} (condition : Condition) {comparison : Comparison}
    (isField : entity.hasField condition.field = true)
    (spelled : Comparison.ofText? condition.comparison = some comparison)
    (row : String → Operand) :
    condition.selects entity row =
      (Selection.clauseOf condition.field comparison condition.value).selects row := by
  rw [selects, Selection.clause_eq_ok_iff.2 ⟨isField, comparison, spelled, rfl⟩]
  rfl

/-- **Membership filters mean what equality filters mean, null aside.**

An accepted list of values is one whose values are accepted one by one, and all of the conditions
become clauses.  A row is selected by membership where one of the values that are not null is
equal to its field, and by the opposite where each differs and none is null.  So the first agrees
with equality except in a row without a value if null is among the values, and the second agrees
with difference except in a row whose field differs from all values if null is among them; which
it can be only for a field that may be empty. -/
theorem membership_selects_iff (entity : Entity) (name : String)
    (spelling : Comparison → String)
    (spells : ∀ comparison, Comparison.ofText? (spelling comparison) = some comparison)
    (values : List Json)
    (accepted : Check.condition entity ⟨name, spelling .isIn, .array values⟩ = .ok ()) :
    (∀ value ∈ values, Check.condition entity ⟨name, spelling .equal, value⟩ = .ok ()) ∧
    (∀ comparison value, ∃ clause,
      Selection.clause entity ⟨name, spelling comparison, value⟩ = .ok clause) ∧
    (Json.null ∈ values → ∃ field, entity.field? name = some field ∧ field.nullable = true) ∧
    ∀ row : String → Operand,
      let selects := fun comparison value =>
        Condition.selects entity ⟨name, spelling comparison, value⟩ row = true
      (selects .isIn (.array values) ↔
        ∃ value ∈ values, value ≠ .null ∧ selects .equal value) ∧
      (selects .notIn (.array values) ↔
        Json.null ∉ values ∧ ∀ value ∈ values, selects .notEqual value) ∧
      ((selects .isIn (.array values) ↔ ∃ value ∈ values, selects .equal value) ↔
        ¬ (Json.null ∈ values ∧ (row name).value = .null)) ∧
      ((selects .notIn (.array values) ↔ ∀ value ∈ values, selects .notEqual value) ↔
        ¬ (Json.null ∈ values ∧ ∀ value ∈ values, selects .notEqual value)) := by
  obtain ⟨field, found, comparison, spelled, fits⟩ := Check.condition_eq_ok_iff.1 accepted
  obtain rfl := Option.some.inj (spelled.symm.trans (spells .isIn))
  have isField : entity.hasField name = true := Check.hasField_of_fieldOf found
  obtain ⟨-, each⟩ := Check.value_isIn_eq_ok_iff.1 fits
  refine ⟨?_, ?_, ?_, ?_⟩
  · intro value member
    exact Check.condition_eq_ok_iff.2 ⟨field, found, .equal, spells .equal, each value member⟩
  · intro comparison value
    exact ⟨_, Selection.clause_eq_ok_iff.2 ⟨isField, comparison, spells comparison, rfl⟩⟩
  · intro member
    exact ⟨field, Check.fieldOf_eq_ok_iff.1 found,
      Check.nullable_of_scalar_null (each .null member)⟩
  · intro row
    have asClause (comparison : Comparison) (value : Json) :
        Condition.selects entity ⟨name, spelling comparison, value⟩ row =
          (Selection.clauseOf name comparison value).selects row :=
      selects_eq ⟨name, spelling comparison, value⟩ isField (spells comparison) row
    simp only [asClause]
    exact ⟨Selection.selects_isIn_iff, Selection.selects_notIn_iff, Selection.isIn_agrees_iff,
      Selection.notIn_agrees_iff⟩

/-- Items with a color, which may be empty. -/
def colored : Entity :=
  { name := "Item", fields := [{ name := "color", type := .data, nullable := true }] }

/-- A list of a color and null. -/
def blueOrNull : List Json := [.string "blue", .null]

/-- A row whose color is a value. -/
def rowOfColor (color : SqlValue) : String → Operand := fun _ => ⟨color, some .text⟩

theorem spells_sign (comparison : Comparison) :
    Comparison.ofText? comparison.sign = some comparison := by
  cases comparison <;> decide +kernel

/-- A blue item is among blue and null, as it equals one of them. -/
theorem membership_selects_blue :
    Check.condition colored ⟨"color", "IN", .array blueOrNull⟩ = .ok () ∧
      Condition.selects colored ⟨"color", "IN", .array blueOrNull⟩
        (rowOfColor (.text "blue")) = true := by
  have accepted : Check.condition colored ⟨"color", "IN", .array blueOrNull⟩ = .ok () := rfl
  obtain ⟨-, -, -, ofRow⟩ :=
    membership_selects_iff colored "color" Comparison.sign spells_sign blueOrNull accepted
  obtain ⟨isIn, -⟩ := ofRow (rowOfColor (.text "blue"))
  exact ⟨accepted, isIn.2 ⟨.string "blue", List.mem_cons_self .., nofun, by decide +kernel⟩⟩

/-- The list of blue and null is accepted.  An item without a color equals null and is not among
them; a red item differs from both and is not outside of them. -/
theorem membership_overlooks_null :
    Check.condition colored ⟨"color", "IN", .array blueOrNull⟩ = .ok () ∧
      (Condition.selects colored ⟨"color", "=", .null⟩ (rowOfColor .null) = true ∧
        Condition.selects colored ⟨"color", "IN", .array blueOrNull⟩
          (rowOfColor .null) = false) ∧
      ((∀ value ∈ blueOrNull,
          Condition.selects colored ⟨"color", "!=", value⟩ (rowOfColor (.text "red")) = true) ∧
        Condition.selects colored ⟨"color", "NOT IN", .array blueOrNull⟩
          (rowOfColor (.text "red")) = false) := by
  refine ⟨rfl, ⟨by decide +kernel, by decide +kernel⟩, ?_, by decide +kernel⟩
  exact List.forall_mem_cons.2 ⟨by decide +kernel, List.forall_mem_singleton.2 (by decide +kernel)⟩

end Condition

end Inquiry
