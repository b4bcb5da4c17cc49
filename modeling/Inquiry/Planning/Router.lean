import Inquiry.Plan.Settled
import Inquiry.Planning.Proposer

/-!
# Routing

A question is routed to a plan by asking a proposer, and another one if the
first fails or answers with what is no plan.  Where generated queries are not
allowed, one is replaced by a plain listing of the entity detected first.
-/

set_option autoImplicit false

namespace Inquiry

/-- A plan and how it came about. -/
structure RoutedPlan where
  plan : Plan
  reasoning : String
  /-- The name of the proposer whose plan it is. -/
  proposer : String

/-- What routing comes to, and how long it took in milliseconds. -/
structure Routing where
  outcome : Except ProposalFault RoutedPlan
  took : Nat

/-- Whom to ask for plans. -/
structure Router where
  primary : Proposer
  /-- Whom to ask when the first one fails. -/
  fallback : Option Proposer := none
  settings : RoutingSettings := {}

namespace Router

/-- The plan of a proposed document. -/
def settle (catalog : Catalog) (name : String) (document : PlanDocument) :
    Except ProposalFault RoutedPlan := do
  let plan ← (document.plan catalog).mapError .planning
  return { plan, reasoning := document.reasoning, proposer := name }

/-- What asking one proposer comes to; none is no answer ever. -/
def consult (catalog : Catalog) (request : PlanningRequest) (proposer : Proposer) :
    Option Routing :=
  (proposer.propose request).map fun proposal =>
    { outcome := proposal.outcome.bind (settle catalog proposer.name), took := proposal.took }

/-- The entity that is listed in place of a generated query. -/
def listedEntity? (detected : List Detected) (given : GeneratedQuery) : Option String :=
  (detected.head?.map (·.entityName)).or given.referencedEntities.head?

/-- A plain listing of an entity. -/
def listing (entity : String) : Operation where
  name := OperationKind.search.name
  parameters := { doctype := some entity, limit := some Proposer.listingLimit }

/-- A routed plan with a generated query replaced by a listing. -/
def downgrade (detected : List Detected) (routed : RoutedPlan) :
    Except ProposalFault RoutedPlan :=
  match routed.plan with
  | .operation _ => .ok routed
  | .query given =>
      match listedEntity? detected given with
      | none => .error (.planning .nothingToList)
      | some entity =>
          .ok { routed with
            plan := .operation (listing entity)
            reasoning := routed.reasoning ++ " (downgraded: dynamic queries disabled)" }

/-- A routed plan as the settings allow it. -/
def allowed (settings : RoutingSettings) (detected : List Detected) (routed : RoutedPlan) :
    Except ProposalFault RoutedPlan :=
  if settings.allowDynamicQueries then .ok routed else downgrade detected routed

/-- What asking the proposers comes to: the answer of the fallback counts where the first one
fails. -/
def consultAll (router : Router) (catalog : Catalog) (request : PlanningRequest) :
    Option Routing := do
  let first ← consult catalog request router.primary
  match first.outcome, router.fallback with
  | .error _, some fallback =>
      let second ← consult catalog request fallback
      return { second with took := first.took + second.took }
  | _, _ => return first

/-- The route of a question with its detected entities; none is no answer ever. -/
def route (router : Router) (catalog : Catalog) (question : String) (detected : List Detected) :
    Option Routing :=
  let request := PlanningRequest.ofDetected catalog question detected
  (router.consultAll catalog request).map fun routing =>
    { routing with outcome := routing.outcome.bind (allowed router.settings detected) }

/-- The proposers that are asked for a request, in order. -/
def asked (router : Router) (catalog : Catalog) (request : PlanningRequest) : List Proposer :=
  match consult catalog request router.primary with
  | some { outcome := .error _, .. } => router.primary :: router.fallback.toList
  | _ => [router.primary]

end Router

end Inquiry
