import Inquiry.Detection

/-!
# Planning requests

A proposer sees the question and the detected entities that the catalog knows,
in the order of detection.
-/

set_option autoImplicit false

namespace Inquiry

/-- What a proposer sees of a question. -/
structure PlanningRequest where
  question : String
  entities : List (Detected × Entity)

namespace PlanningRequest

/-- The request for a question with detected entities. -/
def ofDetected (catalog : Catalog) (question : String) (detected : List Detected) :
    PlanningRequest where
  question
  entities := detected.filterMap fun found =>
    (catalog.get? found.entityName).map fun entity => (found, entity)

/-- The entity detected first. -/
def topEntity? (request : PlanningRequest) : Option Entity := request.entities.head?.map Prod.snd

end PlanningRequest

end Inquiry
