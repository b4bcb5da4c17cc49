import Inquiry.Proofs.Encoding
import Inquiry.Proofs.JsonTexts

/-!
# What a plan carries over from its document

The parameters of a document are read by three readers.  The reader of the
limit and the reader of the filters are strict: what they give carries over all
that the document says, and what cannot be carried is a fault
(`limitParameter_eq_ok_iff`, `conditions_eq_ok_iff`).  The reader of the three
texts is not.  It takes a value that is no text for no value at all, and then
the operation carries nothing of it over (`carriesText_textParameter_iff`).

So an operation that a document settles to carries over everything exactly when
the document gives no other value than a text, or null, for the entity, for the
order and for the record (`PlanDocument.plan_carries_iff`).
-/

set_option autoImplicit false

namespace Inquiry

open JsonText

/-! ## Carrying over -/

/-- A text that is given is carried over without the blanks around it, unless nothing else is in
it. -/
inductive CarriesText : Option Json → Option String → Prop where
  | absent : CarriesText none none
  | null : CarriesText (some .null) none
  | blank {text : String} : Text.trimmed text = "" → CarriesText (some (.string text)) none
  | text {text : String} : Text.trimmed text ≠ "" →
      CarriesText (some (.string text)) (some (Text.trimmed text))

/-- Decimal digits behind a sign, or without one, spell an integer. -/
inductive SpellsInteger : List Char → Int → Prop where
  | unsigned {digits : List Char} : IsNumeral digits →
      SpellsInteger digits (Reading.digitsValue digits)
  | plus {digits : List Char} : IsNumeral digits →
      SpellsInteger ('+' :: digits) (Reading.digitsValue digits)
  | minus {digits : List Char} : IsNumeral digits →
      SpellsInteger ('-' :: digits) (-(Reading.digitsValue digits : Int))

/-- An integer of 64 bits that is given, as a number or spelled in a text, is carried over. -/
inductive CarriesInteger : Option Json → Option Int → Prop where
  | absent : CarriesInteger none none
  | null : CarriesInteger (some .null) none
  | number {value : Int} : Word.fitsSigned value = true →
      CarriesInteger (some (Json.integer value)) (some value)
  | text {text : String} {value : Int} : SpellsInteger (Text.trim text.toList) value →
      Word.fitsSigned value = true → CarriesInteger (some (.string text)) (some value)

/-- A pair of a comparison and a value. -/
def IsPair (items : List Json) : Prop :=
  ∃ comparison operand, items = [.string comparison, operand] ∧
    (Comparison.ofText? comparison).isSome

/-- A field and what is given for it are carried over as one condition. -/
inductive CarriesCondition (field : String) : Json → Condition → Prop where
  | scalar {value : Json} : value.isScalar = true → CarriesCondition field value ⟨field, "=", value⟩
  | pair {comparison : String} {operand : Json} : (Comparison.ofText? comparison).isSome →
      CarriesCondition field (.array [.string comparison, operand]) ⟨field, comparison, operand⟩
  | choice {items : List Json} : ¬ IsPair items → (∀ item ∈ items, item.isScalar = true) →
      CarriesCondition field (.array items) ⟨field, "in", .array items⟩

/-- Every entry of the filters that are given is carried over as one condition, in its turn. -/
inductive CarriesFilters : Option Json → List Condition → Prop where
  | absent : CarriesFilters none []
  | null : CarriesFilters (some .null) []
  | members {members : List (String × Json)} {filters : List Condition} :
      List.Forall₂ (fun member => CarriesCondition member.1 member.2) members filters →
        CarriesFilters (some (.object members)) filters
  | triples {filters : List Condition} :
      CarriesFilters (some (.array (filters.map Condition.triple))) filters

/-- Parameters carry over what the members of a document give for them. -/
structure Parameters.Carry (parameters : Parameters) (members : List (String × Json)) : Prop where
  doctype : CarriesText (Json.lookUp "doctype" members) parameters.doctype
  orderBy : CarriesText (Json.lookUp "order_by" members) parameters.orderBy
  record : CarriesText (Json.lookUp "name" members) parameters.name
  limit : CarriesInteger (Json.lookUp "limit" members) parameters.limit
  filters : CarriesFilters (Json.lookUp "filters" members) parameters.filters

/-! ## Integers -/

namespace Reading

theorem digits?_eq_some_iff {text : List Char} {value : Nat} :
    digits? text = some value ↔ IsNumeral text ∧ digitsValue text = value := by
  simp [digits?, IsNumeral, and_assoc]

/-- An integer of 64 bits is read off a text exactly when the text spells it. -/
theorem integer?_eq_some_iff {text : List Char} {value : Int} :
    integer? text = some value ↔ SpellsInteger text value ∧ Word.fitsSigned value = true := by
  unfold integer?
  rw [Option.filter_eq_some_iff]
  apply and_congr_left
  intro _
  constructor
  · intro read
    split at read
    all_goals obtain ⟨number, ofDigits, rfl⟩ := Option.map_eq_some_iff.1 read
    case h_1 =>
      obtain ⟨isNumeral, rfl⟩ := digits?_eq_some_iff.1 ofDigits
      exact .plus isNumeral
    case h_2 =>
      obtain ⟨number, ofDigits, same⟩ := Option.bind_eq_some_iff.1 ofDigits
      obtain ⟨isNumeral, rfl⟩ := digits?_eq_some_iff.1 ofDigits
      cases same
      exact .minus isNumeral
    case h_3 =>
      obtain ⟨isNumeral, rfl⟩ := digits?_eq_some_iff.1 ofDigits
      exact .unsigned isNumeral
  · intro spells
    cases spells with
    | plus isNumeral => simp [digits?_eq_some_iff.2 ⟨isNumeral, rfl⟩]
    | minus isNumeral => simp [digits?_eq_some_iff.2 ⟨isNumeral, rfl⟩]
    | unsigned isNumeral =>
        -- A digit is no sign, so the text is read as it stands.
        split
        case h_1 rest => exact absurd (isNumeral.2 '+' (List.mem_cons_self ..)) (by decide)
        case h_2 rest => exact absurd (isNumeral.2 '-' (List.mem_cons_self ..)) (by decide)
        case h_3 => simp [digits?_eq_some_iff.2 ⟨isNumeral, rfl⟩]

end Reading

namespace PlanDocument

variable {members : List (String × Json)}

/-- **The limit is carried over or is a fault.** -/
theorem limitParameter_eq_ok_iff {limit : Option Int} :
    limitParameter members = .ok limit ↔ CarriesInteger (Json.lookUp "limit" members) limit := by
  rw [limitParameter]
  generalize Json.lookUp "limit" members = given
  constructor
  · intro read
    split at read
    case h_1 =>
      cases read
      exact .absent
    case h_2 =>
      cases read
      exact .null
    case h_3 number =>
      split at read
      case h_1 limit isInteger =>
        cases read
        cases number with
        | double => cases isInteger
        | integer value =>
            obtain ⟨fits, same⟩ := Option.ite_none_right_eq_some.1 isInteger
            cases same
            exact .number fits
      · cases read
    case h_4 text =>
      split at read
      case h_1 limit isInteger =>
        cases read
        obtain ⟨spells, fits⟩ := Reading.integer?_eq_some_iff.1 isInteger
        exact .text spells fits
      · cases read
    · cases read
  · intro carries
    cases carries with
    | absent => rfl
    | null => rfl
    | number fits => simp [Json.integer, Number.integer?, fits]
    | text spells fits => simp [Reading.integer?_eq_some_iff.2 ⟨spells, fits⟩]

/-! ## Filters -/

theorem conditionOfMember_array_pair {field comparison : String} {operand : Json}
    (compares : (Comparison.ofText? comparison).isSome) :
    conditionOfMember field (.array [.string comparison, operand]) =
      .ok ⟨field, comparison, operand⟩ := by
  simp [conditionOfMember, compares]

theorem conditionOfMember_array {field : String} {items : List Json} (notPair : ¬ IsPair items) :
    conditionOfMember field (.array items) =
      if items.all Json.isScalar then .ok ⟨field, "in", .array items⟩
      else .error (.filterShape field (.array items)) := by
  unfold conditionOfMember
  dsimp only
  split
  case h_1 comparison operand =>
    exact if_neg fun compares => notPair ⟨comparison, operand, rfl, compares⟩
  case h_2 => rfl

/-- One member of an object of filters is carried over or is a fault. -/
theorem conditionOfMember_eq_ok_iff {field : String} {given : Json} {condition : Condition} :
    conditionOfMember field given = .ok condition ↔ CarriesCondition field given condition := by
  constructor
  · intro read
    cases given with
    | object members => cases read
    | array items =>
        by_cases isPair : IsPair items
        · obtain ⟨comparison, operand, rfl, compares⟩ := isPair
          rw [conditionOfMember_array_pair compares] at read
          cases read
          exact .pair compares
        · rw [conditionOfMember_array isPair] at read
          split at read
          case isTrue areScalar =>
            cases read
            exact .choice isPair (List.all_eq_true.1 areScalar)
          · cases read
    | null | bool | number | string =>
        cases read
        exact .scalar rfl
  · intro carries
    cases carries with
    | scalar isScalar =>
        cases given with
        | array | object => cases isScalar
        | null | bool | number | string => rfl
    | pair compares => exact conditionOfMember_array_pair compares
    | choice notPair areScalar =>
        rw [conditionOfMember_array notPair, if_pos (List.all_eq_true.2 areScalar)]

theorem conditionOfEntry_eq_ok_iff {entry : Json} {condition : Condition} :
    conditionOfEntry entry = .ok condition ↔ condition.triple = entry := by
  constructor
  · intro read
    unfold conditionOfEntry at read
    split at read
    · cases read
      rfl
    · cases read
  · rintro rfl
    rfl

/-- **The filters are carried over, one condition for each entry, or are a fault.** -/
theorem conditions_eq_ok_iff {given : Option Json} {filters : List Condition} :
    conditions given = .ok filters ↔ CarriesFilters given filters := by
  constructor
  · intro read
    unfold conditions at read
    split at read
    case h_1 =>
      cases read
      exact .absent
    case h_2 =>
      cases read
      exact .null
    case h_3 members =>
      exact .members ((mapM_eq_ok_iff.1 read).imp fun _ _ => conditionOfMember_eq_ok_iff.1)
    case h_4 items =>
      have entries := (mapM_eq_ok_iff.1 read).imp fun _ _ => conditionOfEntry_eq_ok_iff.1
      have same : filters.map Condition.triple = items :=
        List.forall₂_eq_eq_eq ▸ List.forall₂_map_left_iff.2 entries.flip
      exact same ▸ .triples
    · cases read
  · intro carries
    cases carries with
    | absent => rfl
    | null => rfl
    | members each =>
        exact mapM_eq_ok_iff.2 (each.imp fun _ _ => conditionOfMember_eq_ok_iff.2)
    | triples => exact conditions_triples filters

/-! ## Texts -/

/-- Whether a value that is given for a text is one, or is null. -/
def GivesText (given : Option Json) : Prop :=
  ∀ value ∈ given, value.isNull = true ∨ value.string?.isSome = true

/-- **A text is carried over exactly when it is one**; another value is dropped and is no fault. -/
theorem carriesText_textParameter_iff {name : String} :
    CarriesText (Json.lookUp name members) (textParameter name members) ↔
      GivesText (Json.lookUp name members) := by
  rw [textParameter]
  generalize Json.lookUp name members = given
  cases given with
  | none => exact iff_of_true .absent (by simp [GivesText])
  | some value =>
      cases value with
      | null => exact iff_of_true .null (by simp [GivesText, Json.isNull])
      | string text =>
          refine iff_of_true ?_ (by simp [GivesText, Json.string?])
          dsimp only [Option.bind_some, Json.string?]
          split
          case isTrue isBlank => exact .blank isBlank
          case isFalse notBlank => exact .text notBlank
      | bool | number | array | object =>
          refine iff_of_false ?_ (by simp [GivesText, Json.isNull, Json.string?])
          intro carries
          cases carries

/-! ## Plans -/

/-- What the members of a document mean, and when they mean anything. -/
theorem operationParameters_eq_ok_iff {parameters : Parameters} :
    operationParameters (some (.object members)) = .ok parameters ↔
      CarriesInteger (Json.lookUp "limit" members) parameters.limit ∧
      CarriesFilters (Json.lookUp "filters" members) parameters.filters ∧
      parameters.doctype = textParameter "doctype" members ∧
      parameters.orderBy = textParameter "order_by" members ∧
      parameters.name = textParameter "name" members := by
  rw [← limitParameter_eq_ok_iff, ← conditions_eq_ok_iff]
  show limitParameter members >>= _ = _ ↔ _
  rw [bind_eq_ok_iff]
  constructor
  · rintro ⟨limit, ofLimit, read⟩
    obtain ⟨filters, ofFilters, same⟩ := bind_eq_ok_iff.1 read
    cases same
    exact ⟨ofLimit, ofFilters, rfl, rfl, rfl⟩
  · obtain ⟨doctype, filters, limit, orderBy, name⟩ := parameters
    rintro ⟨ofLimit, ofFilters, rfl, rfl, rfl⟩
    exact ⟨limit, ofLimit, bind_eq_ok_iff.2 ⟨filters, ofFilters, rfl⟩⟩

theorem operationPlan_eq_ok_iff {document : PlanDocument} {operation : Operation} :
    document.operationPlan = .ok operation ↔
      ∃ name ∈ document.apiName, Text.trimmed name ≠ "" ∧
        ∃ parameters, operationParameters document.parameters = .ok parameters ∧
          operation = ⟨Text.trimmed name, parameters⟩ := by
  rw [operationPlan]
  cases document.apiName with
  | none => simp [bind_eq_ok_iff]
  | some given =>
      by_cases isBlank : Text.trimmed given = ""
      · simp [isBlank, bind_eq_ok_iff]
      · simp [isBlank, map_eq_ok_iff]

/-- A document for an operation settles to one when it names it and its parameters mean
something. -/
theorem plan_eq_ok_iff (catalog : Catalog) {document : PlanDocument}
    (direct : document.direction = .ok .operation) {settled : Plan} :
    document.plan catalog = .ok settled ↔
      ∃ operation, document.operationPlan = .ok operation ∧ settled = .operation operation := by
  rw [plan, direct, bind_eq_ok_iff]
  constructor
  · rintro ⟨_, same, read⟩
    cases same
    obtain ⟨operation, ofOperation, same⟩ := bind_eq_ok_iff.1 read
    exact ⟨operation, ofOperation, pure_eq_ok_iff.1 same⟩
  · rintro ⟨operation, ofOperation, rfl⟩
    exact ⟨.operation, rfl, bind_eq_ok_iff.2 ⟨operation, ofOperation, rfl⟩⟩

/-- Parameters that a document means carry over all that is given, when the three texts are texts
or null. -/
theorem carry_iff {parameters : Parameters}
    (means : operationParameters (some (.object members)) = .ok parameters) :
    parameters.Carry members ↔
      ∀ name ∈ ["doctype", "order_by", "name"], GivesText (Json.lookUp name members) := by
  obtain ⟨limit, filters, doctype, orderBy, record⟩ := operationParameters_eq_ok_iff.1 means
  simp only [List.forall_mem_cons, List.not_mem_nil, false_imp_iff, implies_true, and_true,
    ← carriesText_textParameter_iff, ← doctype, ← orderBy, ← record]
  exact ⟨fun carry => ⟨carry.doctype, carry.orderBy, carry.record⟩,
    fun ⟨ofDoctype, ofOrderBy, ofRecord⟩ => ⟨ofDoctype, ofOrderBy, ofRecord, limit, filters⟩⟩

/-- **What a plan drops**: a document for an operation settles exactly when it names the operation
and when its limit and its filters can be carried over, and what it settles to carries over all
that is given exactly when the values given for the three texts are texts or null. -/
theorem plan_carries_iff (catalog : Catalog) {document : PlanDocument}
    (direct : document.direction = .ok .operation)
    (given : document.parameters = some (.object members)) :
    ((∃ settled, document.plan catalog = .ok settled) ↔
      (∃ name ∈ document.apiName, Text.trimmed name ≠ "") ∧
      (∃ limit, CarriesInteger (Json.lookUp "limit" members) limit) ∧
      ∃ filters, CarriesFilters (Json.lookUp "filters" members) filters) ∧
    ∀ settled, document.plan catalog = .ok settled →
      ∃ operation, settled = .operation operation ∧
        (operation.parameters.Carry members ↔
          ∀ name ∈ ["doctype", "order_by", "name"], GivesText (Json.lookUp name members)) := by
  simp only [plan_eq_ok_iff catalog direct, operationPlan_eq_ok_iff, given]
  refine ⟨⟨?_, ?_⟩, ?_⟩
  · rintro ⟨settled, operation, ⟨name, isName, notBlank, parameters, means, -⟩, -⟩
    obtain ⟨limit, filters, -⟩ := operationParameters_eq_ok_iff.1 means
    exact ⟨⟨name, isName, notBlank⟩, ⟨_, limit⟩, ⟨_, filters⟩⟩
  · rintro ⟨⟨name, isName, notBlank⟩, ⟨limit, ofLimit⟩, ⟨filters, ofFilters⟩⟩
    have means : operationParameters (some (.object members)) = .ok {
        doctype := textParameter "doctype" members
        filters, limit
        orderBy := textParameter "order_by" members
        name := textParameter "name" members } :=
      operationParameters_eq_ok_iff.2 ⟨ofLimit, ofFilters, rfl, rfl, rfl⟩
    exact ⟨_, _, ⟨name, isName, notBlank, _, means, rfl⟩, rfl⟩
  · rintro settled ⟨operation, ⟨name, isName, notBlank, parameters, means, rfl⟩, rfl⟩
    exact ⟨_, rfl, carry_iff means⟩

/-- Members that ask for some items, with a limit that is spelled out. -/
def spelledMembers : List (String × Json) :=
  [("doctype", .string " Item "), ("filters", .object [("color", .array [.null, .string "red"])]),
    ("limit", .string " +20"), ("name", .null)]

theorem plan_carries_iff_spelled :
    let document : PlanDocument :=
      { apiName := some "dynamic_search", parameters := some (.object spelledMembers) }
    ∃ operation, document.plan .empty = .ok (.operation operation) ∧
      operation.parameters.Carry spelledMembers := by
  intro document
  have direct : document.direction = .ok .operation := rfl
  have carries := plan_carries_iff .empty direct rfl
  have isNumeral : IsNumeral ['2', '0'] := ⟨by decide, List.all_eq_true.1 (by decide)⟩
  have limit : CarriesInteger (Json.lookUp "limit" spelledMembers) (some 20) :=
    .text (.plus isNumeral) (by decide)
  have filters : CarriesFilters (Json.lookUp "filters" spelledMembers)
      [⟨"color", "in", .array [.null, .string "red"]⟩] :=
    .members (.cons (.choice (by rintro ⟨_, _, same, _⟩; cases same) (by decide)) .nil)
  obtain ⟨settled, settles⟩ :=
    carries.1.2 ⟨⟨"dynamic_search", rfl, by decide⟩, ⟨_, limit⟩, ⟨_, filters⟩⟩
  obtain ⟨operation, rfl, carry⟩ := carries.2 settled settles
  refine ⟨operation, settles, carry.2 ?_⟩
  simp only [List.forall_mem_cons, List.not_mem_nil, false_imp_iff, implies_true, and_true]
  refine ⟨?_, ?_, ?_⟩
  · intro _ same
    exact .inr (Option.some.inj same ▸ rfl)
  · exact nofun
  · intro _ same
    exact .inl (Option.some.inj same ▸ rfl)

/-- The name of a record that is given as a number is dropped: the operation has none. -/
theorem plan_drops_number :
    let members := [("doctype", Json.string "Item"), ("name", .integer 5)]
    let document : PlanDocument :=
      { apiName := some "get_document_details", parameters := some (.object members) }
    document.plan .empty =
        .ok (.operation ⟨"get_document_details", { doctype := some "Item" }⟩) ∧
      ¬ Parameters.Carry { doctype := some "Item" } members :=
  ⟨rfl, fun carry => nomatch carry.record⟩

end PlanDocument

end Inquiry
