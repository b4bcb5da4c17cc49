import Inquiry.Proofs.Membership
import Inquiry.Proofs.Rounding

/-!
# Values as they are bound

The values of conditions do not stand in the text of a selection, they are bound
to its marks.  Binding should keep them as they are: whole numbers as integers,
truth values as one and zero, texts, dates and times as texts, null as null
(`IsKept`).  The check of an operation says what the value of a condition can be
for each kind of field, and that decides how it is bound; lists and objects never
get so far, so none is bound as a JSON text.

There is one exception.  The check takes whole numbers of 64 bits without a sign,
and the record store has them with a sign only.  One that is too large is bound as
the nearest double: it is no integer any more, and its last eleven bits are lost.
So an accepted value is kept exactly when it is no such number, or when the field
holds doubles and this one holds the number (`parameters_keep_iff`).
-/

set_option autoImplicit false

namespace Inquiry

/-! ## What it is to be kept -/

/-- The value of a double is a whole number. -/
def Double.HasValue (number : Double) (value : Int) : Prop :=
  number.isFinite = true ∧ number.units = value * Double.denominator

instance (number : Double) (value : Int) : Decidable (number.HasValue value) :=
  inferInstanceAs (Decidable (_ ∧ _))

/-- A value for a kind of field is bound as it is. -/
inductive IsKept (type : FieldType) : Json → SqlValue → Prop where
  | null : IsKept type .null .null
  | truth (value : Bool) : type = .check → IsKept type (.bool value) (.integer value.toInt)
  | integer (value : Int) : type.isNumeric = true →
      IsKept type (.number (.integer value)) (.integer value)
  | double (value : Double) : type.columnType = .real →
      IsKept type (.number (.double value)) (.real value)
  /-- A whole number for a field that holds doubles may be bound as one with its value. -/
  | whole (value : Int) (number : Double) : type.columnType = .real → number.HasValue value →
      IsKept type (.number (.integer value)) (.real number)
  | text (value : String) : type.columnType = .text → IsKept type (.string value) (.text value)

/-- Only the values of fields that hold doubles are kept as doubles. -/
theorem IsKept.isReal {type : FieldType} {value : Json} {number : Double}
    (kept : IsKept type value (.real number)) : type.columnType = .real := by
  cases kept <;> assumption

/-- A value is a whole number that the record store has no integer for, and that is not for a field
of doubles, or is no double. -/
def Exceeds (type : FieldType) : Json → Prop
  | .number (.integer number) =>
      Word.fitsSigned number = false ∧
        ¬ (type.columnType = .real ∧ (Double.ofInt number).HasValue number)
  | _ => False

instance (type : FieldType) : (value : Json) → Decidable (Exceeds type value)
  | .number (.integer _) => inferInstanceAs (Decidable (_ ∧ _))
  | .number (.double _) | .null | .bool _ | .string _ | .array _ | .object _ =>
      inferInstanceAs (Decidable False)

/-- Of the whole numbers that take all 64 bits, doubles hold the multiples of 2048. -/
theorem hasValue_ofInt_iff {number : Int} (low : Word.signedLimit ≤ number)
    (high : number < Word.limit) : (Double.ofInt number).HasValue number ↔ 2048 ∣ number := by
  obtain ⟨natural, rfl⟩ := Int.eq_ofNat_of_zero_le (le_trans (by decide) low)
  have isLow : 2 ^ (52 + 11) ≤ natural := by
    have := low
    simp only [Word.signedLimit] at this
    omega
  have isHigh : natural < 2 ^ (52 + 11 + 1) := by
    have := high
    simp only [Word.limit] at this
    omega
  obtain ⟨isFinite, -⟩ := Double.units_ofNat isLow isHigh (by decide)
  rw [Double.HasValue, Double.ofInt_natCast, and_iff_right isFinite, ← Int.natCast_mul,
    Double.units_ofNat_eq_iff isLow isHigh (by decide)]
  exact Int.natCast_dvd_natCast.symm

/-- Whole numbers that take all 64 bits exceed what is kept, other than multiples of 2048 for
fields of doubles. -/
theorem exceeds_iff {type : FieldType} {number : Int} (low : Word.signedLimit ≤ number)
    (high : number < Word.limit) :
    Exceeds type (.number (.integer number)) ↔ ¬ (type.columnType = .real ∧ 2048 ∣ number) := by
  have tooLarge : Word.fitsSigned number = false := by
    simp [Word.fitsSigned, low]
  rw [Exceeds, and_iff_right tooLarge, hasValue_ofInt_iff low high]

/-! ## What is bound -/

/-- The values that a comparison with a value binds: those of a list, and none where a field is
null or is not. -/
def Comparison.bound : Comparison → Json → List Json
  | .isIn, .array items => items
  | .notIn, .array items => items
  | .equal, .null => []
  | .notEqual, .null => []
  | _, value => [value]

theorem Selection.values_clauseOf (column : String) (comparison : Comparison) (value : Json) :
    (clauseOf column comparison value).values = (comparison.bound value).map SqlValue.ofJson := by
  cases comparison <;> cases value <;> rfl

/-- A value that is bound, with the field and the comparison that it is for. -/
structure Binding where
  field : Field
  comparison : Comparison
  value : Json

/-- What a condition on an entity binds. -/
def Condition.bindings (entity : Entity) (condition : Condition) : List Binding :=
  match entity.field? condition.field, Comparison.ofText? condition.comparison with
  | some field, some comparison =>
      (comparison.bound condition.value).map fun value => { field, comparison, value }
  | _, _ => []

/-- What the conditions of an operation on an entity bind, in order. -/
def Operation.bindings (entity : Entity) (operation : Operation) : List Binding :=
  operation.parameters.filters.flatMap (·.bindings entity)

/-! ## What the check lets through -/

namespace Check

theorem meets_of_scalar {field : Field} {value : Json} (notNull : value.isNull = false)
    (accepted : scalar field value = .ok ()) : meets value (expectationOf field.type) = true := by
  by_contra unfit
  simp [scalar, notNull, unfit] at accepted

/-- A kind of field is one that takes values of this form. -/
def Takes (type : FieldType) : Json → Prop
  | .bool _ => type = .check
  | .number (.integer _) => type.isNumeric = true
  | .number (.double _) => type.columnType = .real
  | .string _ => type.columnType = .text
  | .null | .array _ | .object _ => False

theorem takes_of_scalar {field : Field} {value : Json} (notNull : value.isNull = false)
    (accepted : scalar field value = .ok ()) : Takes field.type value := by
  have fits := meets_of_scalar notNull accepted
  revert fits
  rcases value with _ | _ | (_ | _) | _ | _ | _ <;> cases field.type <;>
    simp [Takes, expectationOf, meets, textIs, Json.string?, Number.isInteger, Number.integer?,
      FieldType.isNumeric, FieldType.columnType]

/-- A number for a kind of field that holds it is kept unless it exceeds what the record store has
integers for. -/
theorem isKept_number_iff {type : FieldType} {number : Number}
    (taken : Takes type (.number number)) :
    IsKept type (.number number) (SqlValue.ofJson (.number number)) ↔
      ¬ Exceeds type (.number number) := by
  cases number with
  | double value => exact iff_of_true (.double value taken) not_false
  | integer value =>
      cases fits : Word.fitsSigned value with
      | true =>
          have bound : SqlValue.ofJson (.number (.integer value)) = .integer value := by
            simp [SqlValue.ofJson, Number.integer?, fits]
          rw [bound]
          apply iff_of_true (.integer value taken)
          rintro ⟨tooLarge, -⟩
          exact absurd fits (by simp [tooLarge])
      | false =>
          have bound : SqlValue.ofJson (.number (.integer value)) =
              .real (Double.ofInt value) := by
            simp [SqlValue.ofJson, Number.integer?, Number.toDouble, fits]
          rw [bound]
          constructor
          · rintro kept ⟨-, notHeld⟩
            cases kept with
            | whole _ _ isReal hasValue => exact notHeld ⟨isReal, hasValue⟩
          · intro within
            by_contra notKept
            exact within ⟨fits, fun held => notKept (.whole value _ held.1 held.2)⟩

/-- An accepted single value is neither a list nor an object, and it is kept unless it exceeds what
the record store has integers for. -/
theorem isKept_iff_of_scalar {field : Field} {value : Json}
    (accepted : scalar field value = .ok ()) :
    value.isScalar = true ∧
      (IsKept field.type value (SqlValue.ofJson value) ↔ ¬ Exceeds field.type value) := by
  cases value with
  | null => exact ⟨rfl, iff_of_true .null not_false⟩
  | bool value =>
      have isCheck : field.type = .check := takes_of_scalar rfl accepted
      refine ⟨rfl, iff_of_true ?_ not_false⟩
      cases value <;> exact .truth _ isCheck
  | number number => exact ⟨rfl, isKept_number_iff (takes_of_scalar rfl accepted)⟩
  | string value =>
      have isText : field.type.columnType = .text := takes_of_scalar rfl accepted
      exact ⟨rfl, iff_of_true (.text value isText) not_false⟩
  | array => exact (takes_of_scalar rfl accepted : False).elim
  | object => exact (takes_of_scalar rfl accepted : False).elim

/-- Other than for a pattern, each value that is bound is accepted on its own. -/
theorem scalar_of_mem_bound {field : Field} {comparison : Comparison} {given one : Json}
    (accepted : value field comparison given = .ok ()) (notLike : comparison ≠ .like)
    (member : one ∈ comparison.bound given) : scalar field one = .ok () := by
  cases comparison with
  | like => exact absurd rfl notLike
  | isIn | notIn =>
      cases given with
      | array values =>
          cases values with
          | nil => cases member
          | cons first rest => exact scalars_eq_ok_iff.1 accepted one member
      | _ => cases accepted
  | equal | notEqual =>
      cases given with
      | null => cases member
      | _ => exact List.mem_singleton.1 member ▸ accepted
  | _ => exact List.mem_singleton.1 member ▸ accepted

/-- What is bound for an accepted condition is neither a list nor an object. -/
theorem isScalar_of_mem_bound {field : Field} {comparison : Comparison} {given one : Json}
    (accepted : value field comparison given = .ok ()) (member : one ∈ comparison.bound given) :
    one.isScalar = true := by
  by_cases notLike : comparison = .like
  · subst notLike
    cases given with
    | string => exact List.mem_singleton.1 member ▸ rfl
    | _ => cases accepted
  · exact (isKept_iff_of_scalar (scalar_of_mem_bound accepted notLike member)).1

end Check

/-- A value that is accepted for a condition and that a parameter is bound to. -/
structure Binding.IsBoundAs (binding : Binding) (value : SqlValue) : Prop where
  /-- No JSON text is made of it. -/
  isScalar : binding.value.isScalar = true
  kept_iff : binding.comparison ≠ .like →
    (IsKept binding.field.type binding.value value ↔ ¬ Exceeds binding.field.type binding.value)
  rounded : ∀ number, binding.value = .number (.integer number) →
    Word.fitsSigned number = false → value = .real (Double.ofInt number)

namespace Selection

/-- The values of a clause are what its condition binds. -/
theorem values_of_isClauseOf {entity : Entity} {condition : Condition} {clause : Clause}
    (made : IsClauseOf entity condition clause) :
    clause.values = (condition.bindings entity).map (SqlValue.ofJson ·.value) := by
  obtain ⟨isField, comparison, spelled, rfl⟩ := made
  obtain ⟨field, found⟩ := Option.isSome_iff_exists.1 isField
  simp [Condition.bindings, found, spelled, values_clauseOf, Function.comp_def]

/-- The values of all clauses are what the conditions bind, in order. -/
theorem values_of_areClausesOf {entity : Entity} {conditions : List Condition}
    {clauses : List Clause} (made : List.Forall₂ (IsClauseOf entity) conditions clauses) :
    clauses.flatMap (·.values) =
      (conditions.flatMap (·.bindings entity)).map (SqlValue.ofJson ·.value) := by
  induction made with
  | nil => rfl
  | cons first _ ih =>
      rw [List.flatMap_cons, List.flatMap_cons, List.map_append, values_of_isClauseOf first, ih]

/-- What an accepted condition binds is bound as said. -/
theorem isBoundAs_of_accepted {entity : Entity} {condition : Condition}
    (accepted : Check.condition entity condition = .ok ()) {binding : Binding}
    (member : binding ∈ condition.bindings entity) :
    binding.IsBoundAs (SqlValue.ofJson binding.value) := by
  obtain ⟨field, found, comparison, spelled, fits⟩ := Check.condition_eq_ok_iff.1 accepted
  rw [Condition.bindings, Check.fieldOf_eq_ok_iff.1 found, spelled] at member
  obtain ⟨value, isBound, rfl⟩ := List.mem_map.1 member
  refine ⟨Check.isScalar_of_mem_bound fits isBound, fun notLike => ?_, ?_⟩
  · exact (Check.isKept_iff_of_scalar (Check.scalar_of_mem_bound fits notLike isBound)).2
  · rintro number rfl tooLarge
    simp [SqlValue.ofJson, Number.integer?, Number.toDouble, tooLarge]

/-- **Accepted values are bound as they are, unless they are whole numbers beyond 63 bits.**

An accepted operation becomes a selection, whose parameters are the name of the record, if one is
fetched, and then the values of the conditions one by one.  None of them is a list or an object.
Under a comparison other than with a pattern, each is kept exactly when it is not a whole number
for which the record store has no integer and the field no double; such a number is bound as the
nearest double.  Of the accepted ones these are all but the multiples of 2048 in a field of
doubles. -/
theorem parameters_keep_iff (catalog : Catalog) (parser : Sql.Parser) (given : Operation)
    (accepted : Check.plan catalog (.operation given) parser = .ok ()) :
    (∃ doctype entity selection named bound,
      given.parameters.doctype = some doctype ∧ catalog.entity? doctype = some entity ∧
      ofOperation catalog given = .ok selection ∧ selection.parameters = named ++ bound ∧
      (named = [] ∨ ∃ name, given.parameters.name = some name ∧ named = [.text name]) ∧
      List.Forall₂ Binding.IsBoundAs (given.bindings entity) bound) ∧
    ∀ type number, Word.signedLimit ≤ number → number < Word.limit →
      (Exceeds type (.number (.integer number)) ↔
        ¬ (type.columnType = .real ∧ 2048 ∣ number)) := by
  refine ⟨?_, fun type number => exceeds_iff⟩
  obtain ⟨selection, made⟩ := exists_ofOperation accepted
  obtain ⟨doctype, entity, ofDoctype, known, isAbout⟩ := isAbout_of_ofOperation made
  obtain ⟨-, ⟨named, clauses, isClauses, namedOnce, ofFilters⟩, -⟩ := isAbout
  refine ⟨doctype, entity, selection, named.flatMap (·.values), clauses.flatMap (·.values),
    ofDoctype, known, made, ?_, ?_, ?_⟩
  · rw [parameters, isClauses, List.flatMap_append]
  · rcases namedOnce with rfl | ⟨name, ofName, rfl⟩
    · exact .inl rfl
    · exact .inr ⟨name, ofName, rfl⟩
  · obtain ⟨_, doctype', entity', -, ofDoctype', known', -, conditions, -⟩ :=
      Check.operation_eq_ok_iff.1 accepted
    obtain rfl := Option.some.inj (ofDoctype.symm.trans ofDoctype')
    obtain rfl := Option.some.inj (known.symm.trans known')
    rw [values_of_areClausesOf ofFilters, List.forall₂_map_right_iff]
    apply List.forall₂_same.2
    intro binding member
    obtain ⟨condition, isGiven, isBound⟩ := List.mem_flatMap.1 member
    exact isBoundAs_of_accepted (conditions condition isGiven) isBound

/-- The conditions that items are drafts or settled, of this year and made by someone or no one. -/
def recentConditions : List Condition :=
  [⟨"docstatus", "in", .array [.integer 0, .integer 1]⟩,
    ⟨"creation", ">=", .string "2024-01-01"⟩,
    ⟨"owner", "not in", .array [.string "Administrator", .null]⟩]

/-- A count of the items that meet conditions. -/
def countOf (conditions : List Condition) : Operation where
  name := "count_documents"
  parameters := { doctype := some "Item", filters := conditions }

/-- The values of the conditions are kept. -/
theorem parameters_keep_recent :
    Check.plan Check.itemCatalog (.operation (countOf recentConditions)) .byRules = .ok () ∧
      ∃ entity selection, Check.itemCatalog.entity? "Item" = some entity ∧
        ofOperation Check.itemCatalog (countOf recentConditions) = .ok selection ∧
        List.Forall₂ (fun binding value => IsKept binding.field.type binding.value value)
          ((countOf recentConditions).bindings entity) selection.parameters := by
  have accepted : Check.plan Check.itemCatalog (.operation (countOf recentConditions)) .byRules =
      .ok () :=
    rfl
  obtain ⟨⟨_, entity, selection, named, bound, ofDoctype, known, made, isAll, nameOnce, isBound⟩,
    -⟩ := parameters_keep_iff Check.itemCatalog .byRules (countOf recentConditions) accepted
  obtain rfl := Option.some.inj ofDoctype
  obtain rfl | ⟨_, noName, -⟩ := nameOnce
  · obtain rfl := Option.some.inj known
    have within : ∀ binding ∈ (countOf recentConditions).bindings
        ({ name := "Item", fields := [] } : Entity).trimmed,
        binding.comparison ≠ .like ∧ ¬ Exceeds binding.field.type binding.value := by
      decide +kernel
    refine ⟨accepted, _, selection, known, made, isAll ▸ ?_⟩
    refine ((List.forall₂_and_left _ _).2 ⟨within, isBound⟩).imp ?_
    rintro binding value ⟨⟨notLike, notExceeds⟩, asSaid⟩
    exact (asSaid.kept_iff notLike).2 notExceeds
  · cases noName

/-- A whole number that takes all 64 bits is accepted for a field of whole numbers.  The record
store is given a double, whose value is one less. -/
theorem parameters_lose_integer :
    Check.plan Check.itemCatalog
        (.operation (countOf [⟨"docstatus", "=", .integer 9223372036854775809⟩])) .byRules =
          .ok () ∧
      ∃ selection number,
        ofOperation Check.itemCatalog
          (countOf [⟨"docstatus", "=", .integer 9223372036854775809⟩]) = .ok selection ∧
        selection.parameters = [.real number] ∧ number.HasValue 9223372036854775808 ∧
        ¬ IsKept .int (.number (.integer 9223372036854775809)) (.real number) := by
  refine ⟨rfl, _, Double.ofInt 9223372036854775809, rfl, by decide +kernel, by decide +kernel,
    ?_⟩
  intro kept
  exact nomatch kept.isReal

end Selection

end Inquiry
