import Inquiry.Check.Value
import Inquiry.Code.Reference
import Inquiry.Code.WriteKeyword
import Inquiry.Plan.Basic
import Inquiry.Sql.Rules

/-!
# Checking plans

An operation is checked against the entity it is about: its kind, its
parameters, and the fields, comparisons and values of its conditions.  A
generated query is given to a parser: it must be a single statement that
reads, or, when the parser cannot read it, must hold no word that writes; and
each of its table references must mean an entity of the catalog.
-/

set_option autoImplicit false

namespace Inquiry.Check

/-! ## Operations -/

/-- The field of an entity, or a refusal. -/
def fieldOf (entity : Entity) (name : String) : Except CheckFault Field :=
  match entity.field? name with
  | some field => .ok field
  | none => .error (.unknownField name entity.name)

/-- A condition must compare a field of the entity with a value that fits. -/
def condition (entity : Entity) (given : Condition) : Except CheckFault Unit := do
  let field ← fieldOf entity given.field
  match Comparison.ofText? given.comparison with
  | none => throw (.unsupportedComparison given.comparison given.field)
  | some comparison => value field comparison given.value

/-- Every condition must hold good. -/
def conditions (entity : Entity) : List Condition → Except CheckFault Unit
  | [] => .ok ()
  | first :: rest => do
      condition entity first
      conditions entity rest

/-- Whether a word is a direction of sorting, in any case. -/
def isDirection (word : List Char) : Bool :=
  Text.lower word = "asc".toList || Text.lower word = "desc".toList

/-- An order must be a field of the entity, perhaps with a direction. -/
def order (entity : Entity) (orderBy : String) : Except CheckFault Unit := do
  let words := Text.words orderBy.toList
  let _ ← fieldOf entity (String.ofList (words.headD []))
  match words.tail with
  | [] => pure ()
  | [direction] => if isDirection direction then pure () else throw (.badOrder orderBy)
  | _ => throw (.badOrder orderBy)

/-- A limit must be positive. -/
def limit (given : Int) : Except CheckFault Unit :=
  if given ≤ 0 then .error (.limitNotPositive given) else .ok ()

/-- An operation must be one of the three, about an entity, with parameters that hold good. -/
def operation (catalog : Catalog) (given : Operation) : Except CheckFault Unit := do
  let some kind := given.kind? | throw (.unknownOperation given.name)
  let parameters := given.parameters
  let some doctype := parameters.doctype | throw (.missingDoctype given.name)
  let some entity := catalog.entity? doctype | throw (.unknownEntity doctype)
  if kind = .details ∧ parameters.name = none then throw (.missingName given.name)
  conditions entity parameters.filters
  match parameters.orderBy with
  | none => pure ()
  | some orderBy => order entity orderBy
  match parameters.limit with
  | none => pure ()
  | some bound => limit bound

/-! ## Generated queries -/

/-- Code must be at most one statement, and a query; code that cannot be read must not write. -/
def statements (parser : Sql.Parser) (code : List Char) : Except CheckFault Unit :=
  match parser code with
  | some found =>
      if 1 < found.length then .error (.severalStatements found.length)
      else
        match found.find? (fun statement => !statement.tree.isQuery) with
        | some statement => .error (.notAQuery statement.text)
        | none => .ok ()
  | none =>
      match Code.writeKeyword? code with
      | some keyword => .error (.writeKeyword keyword)
      | none => .ok ()

/-- Code must have table references, none empty and each meaning an entity. -/
def tables (catalog : Catalog) (code : List Char) : Except CheckFault Unit :=
  let references := Code.scan catalog code
  if references.isEmpty then .error .noTable
  else
    match references.find? (·.isEmpty) with
    | some reference => .error (.emptyTable reference.raw)
    | none =>
        match references.find? (fun reference => (reference.entity? catalog).isNone) with
        | some reference => .error (.unknownTable (String.ofList reference.identifier))
        | none => .ok ()

/-- A generated query must have code that reads from known tables. -/
def query (parser : Sql.Parser) (catalog : Catalog) (given : GeneratedQuery) :
    Except CheckFault Unit := do
  let code := Text.trim given.code.toList
  if code.isEmpty then throw .noCode
  statements parser code
  tables catalog code

/-- A plan must hold good before it is executed; where nothing is said of the parser, it reads by
the rules. -/
def plan (catalog : Catalog) (given : Plan) (parser : Sql.Parser := .byRules) :
    Except CheckFault Unit :=
  match given with
  | .operation given => operation catalog given
  | .query given => query parser catalog given

end Inquiry.Check
