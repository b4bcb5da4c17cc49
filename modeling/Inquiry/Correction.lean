import Inquiry.Code.Reference
import Inquiry.Detection
import Inquiry.Plan.Basic
import Inquiry.Text.Similarity

/-!
# Correcting table references

The table references of a generated query are repaired, each at most once, and
written in one form: the table of an entity between backticks.  An empty
reference becomes the table of the entity detected first.  Any other becomes
the table of the entity that its identifier means, or of the one that it means
without the ending of a plural, or of the one with the most similar name if it
is similar enough.  A reference that none of this helps stays as it is.
-/

set_option autoImplicit false

namespace Inquiry

/-- Why a query cannot be corrected. -/
inductive CorrectionFault where
  /-- A reference is empty and no entity was detected that could fill it. -/
  | nothingToFill (reference : String)
  /-- A reference is empty after correction. -/
  | stillEmpty (reference : String)
deriving DecidableEq

/-- The wording of a fault in correction. -/
def CorrectionFault.message : CorrectionFault → String
  | .nothingToFill reference =>
      "Table reference '" ++ reference ++ "' is empty and no entity was detected to fill it; " ++
        "name the document type explicitly"
  | .stillEmpty reference =>
      "Table reference '" ++ reference ++ "' is still empty after correction"

namespace Correction

/-! ## Repairing one identifier -/

/-- The endings of plurals, in the order in which they are tried. -/
def pluralEndings : List (List Char) := [['e', 's'], ['s']]

/-- A text without an ending, if it has it. -/
def withoutEnding? (ending text : List Char) : Option (List Char) :=
  (ending.reverse.isPrefixOf? text.reverse).map List.reverse

/-- The entity that a key means without the ending of a plural. -/
def singular? (catalog : Catalog) (key : List Char) : Option Entity :=
  pluralEndings.findSome? fun ending => (withoutEnding? ending key).bind catalog.resolve?

/-- An entity and how similar its name is. -/
structure Likeness where
  score : Double
  entity : Entity

/-- Whether another likeness is better: a greater score, or on a tie a longer name. -/
def Likeness.improves (other best : Likeness) : Bool :=
  best.score.totalKey < other.score.totalKey ||
    (best.score.totalKey = other.score.totalKey &&
      Text.byteSize best.entity.name.toList < Text.byteSize other.entity.name.toList)

/-- The better of the best likeness so far and another one, which must reach the threshold. -/
def Likeness.better (threshold : Double) (best : Option Likeness) (other : Likeness) :
    Option Likeness :=
  if other.score.less threshold then best
  else
    match best with
    | none => some other
    | some current => if other.improves current then some other else some current

/-- The entity with the key most similar to the given one, if it is similar enough. -/
def similar? (threshold : Double) (catalog : Catalog) (key : List Char) : Option Entity :=
  let likenesses := catalog.entities.map fun entity =>
    { score := Text.jaroWinkler key entity.key, entity : Likeness }
  (likenesses.foldl (Likeness.better threshold) none).map (·.entity)

/-- The entity that an identifier most plausibly means. -/
def repair? (settings : CorrectionSettings) (catalog : Catalog) (identifier : List Char) :
    Option Entity :=
  match catalog.resolve? identifier with
  | some entity => some entity
  | none =>
      let key := keyOf identifier
      (singular? catalog key).or (similar? settings.fuzzyThreshold catalog key)

/-! ## Correcting a query -/

/-- The table of the entity detected first. -/
def topTable? (catalog : Catalog) (detected : List Detected) : Option String :=
  detected.head?.map fun first =>
    match catalog.get? first.entityName with
    | some entity => entity.tableName
    | none => tableNameOf first.entityName

/-- The table that replaces a reference, if there is one. -/
def replacement? (settings : CorrectionSettings) (catalog : Catalog) (fallback : Option String)
    (reference : Code.Reference) : Option String :=
  if reference.isEmpty then fallback
  else (repair? settings catalog reference.identifier).map (·.tableName)

/-- A query with its table references repaired. -/
def query (settings : CorrectionSettings) (catalog : Catalog) (detected : List Detected)
    (given : GeneratedQuery) : Except CorrectionFault GeneratedQuery :=
  let code := given.code.toList
  let fallback := topTable? catalog detected
  match (Code.scan catalog code).find? (fun reference => fallback.isNone && reference.isEmpty) with
  | some reference => .error (.nothingToFill reference.raw)
  | none =>
      let corrected :=
        Code.replaceTables catalog code (replacement? settings catalog fallback)
      match (Code.scan catalog corrected).find? (·.isEmpty) with
      | some reference => .error (.stillEmpty reference.raw)
      | none =>
          .ok {
            code := String.ofList corrected
            referencedEntities := Code.referencedEntities catalog corrected }

/-- A plan with its query corrected; an operation stays as it is. -/
def plan (settings : CorrectionSettings) (catalog : Catalog) (detected : List Detected) :
    Plan → Except CorrectionFault Plan
  | .operation given => .ok (.operation given)
  | .query given => (query settings catalog detected given).map .query

/-! ## Pointing references elsewhere -/

/-- Code with the references that pass a test pointed at a table. -/
def retarget (catalog : Catalog) (table : String) (selects : Code.Reference → Bool)
    (code : List Char) : List Char :=
  Code.replaceTables catalog code fun reference => if selects reference then some table else none

end Correction

end Inquiry
