import Inquiry.Plan.Operation

/-!
# Plans

A plan answers a question in one of two ways: by an operation on one entity,
or by a generated query, which is code for the record store.  Stages make new
plans; none edits a plan in place.
-/

set_option autoImplicit false

namespace Inquiry

/-- A query written by a model, and the entities that it reads from. -/
structure GeneratedQuery where
  code : String
  referencedEntities : List String
deriving DecidableEq

/-- How a question is to be answered. -/
inductive Plan where
  | operation (operation : Operation)
  | query (query : GeneratedQuery)

namespace Plan

/-- The name of the way in which a plan answers. -/
def executionType : Plan → String
  | .operation _ => "direct_api"
  | .query _ => "dynamic_query"

/-- The text that stands for a plan in diagnosis. -/
def text : Plan → String
  | .operation proposed => proposed.display
  | .query generated => generated.code

end Plan

end Inquiry
