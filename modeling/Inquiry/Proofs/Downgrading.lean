import Inquiry.Proofs.Answering
import Inquiry.Proofs.Compiling
import Inquiry.Proofs.Correcting

/-!
# Where generated queries are not allowed

Settings may say that generated queries are not to be run.  A proposer may
answer with one all the same, so routing puts a plain listing of the entity
detected first in the place of it.  What leaves routing is then an operation
whatever was proposed (`Router.isOperation_of_allowed`), preparation keeps it as
it is, and execution calls the plan once; so over any number of questions every
call that the record store receives is an operation.

The listing needs no second look, because it passes the check by itself: what is
detected is an entity of the catalog (`Detection.known_detect`), and the listing
of an entity of the catalog is accepted (`Check.operation_listing`).
-/

set_option autoImplicit false

namespace Inquiry

variable {State : Type}

/-! ## Detected entities are known -/

namespace Detection

/-- The best of candidates is one of them, or the best one from before. -/
theorem mem_of_foldl_better {candidates : List Candidate} {best : Option Candidate}
    {candidate : Candidate} (isBest : candidates.foldl better best = some candidate) :
    best = some candidate ∨ candidate ∈ candidates := by
  refine mem_of_foldl_pick (fun best other => ?_) isBest
  cases best with
  | none => exact .inr rfl
  | some current =>
      simp only [better]
      split
      · exact .inr rfl
      · exact .inl rfl

/-- A candidate carries the name of its entity. -/
theorem entityName_of_score? {settings : DetectionSettings} {text : List Char} {entity : Entity}
    {candidate : Candidate} (scored : score? settings text entity = some candidate) :
    candidate.detected.entityName = entity.name := by
  rcases mem_of_foldl_better scored with impossible | member
  · cases impossible
  · obtain ⟨keyword, -, made⟩ := List.mem_filterMap.1 member
    obtain ⟨occurrence, -, rfl⟩ := Option.map_eq_some_iff.1 made
    rfl

theorem mem_of_mem_confident {settings : DetectionSettings} {candidates : List Candidate}
    {candidate : Candidate} (member : candidate ∈ confident settings candidates) :
    candidate ∈ candidates := by
  rw [confident] at member
  split at member
  · exact member
  · exact List.mem_of_mem_filter member

/-- What is detected are entities of the catalog. -/
theorem known_detect (settings : DetectionSettings) (catalog : Catalog) (question : String) :
    Correction.Known catalog (detect settings catalog question) := by
  intro detected member
  obtain ⟨candidate, isTop, rfl⟩ := List.mem_map.1 member
  have isRanked := mem_of_mem_confident (List.mem_of_mem_take isTop)
  obtain ⟨entity, isEntity, scored⟩ := List.mem_filterMap.1 (List.mem_mergeSort.1 isRanked)
  rw [entityName_of_score? scored, Catalog.contains, Catalog.get?, List.find?_isSome]
  exact ⟨entity, isEntity, decide_eq_true rfl⟩

end Detection

/-! ## Listings are accepted -/

/-- The name of a kind of operation names this kind. -/
theorem OperationKind.ofText?_name (kind : OperationKind) : ofText? kind.name = some kind := by
  cases kind <;> rfl

/-- The listing of an entity of the catalog is accepted. -/
theorem Check.operation_listing {catalog : Catalog} {entity : String}
    (known : catalog.contains entity = true) :
    Check.operation catalog (Router.listing entity) = .ok () := by
  obtain ⟨found, isFound⟩ := Option.isSome_iff_exists.1 known
  refine Check.operation_eq_ok_iff.2 ⟨.search, entity, found,
    OperationKind.ofText?_name .search, rfl, ?_, nofun, nofun,
    nofun, ?_⟩
  · rw [Catalog.entity?, isFound]
  · rintro bound ⟨⟩
    rfl

/-! ## Routing -/

/-- A proposer answers a request with a document that means a plan, after some time. -/
structure Proposer.Means (proposer : Proposer) (catalog : Catalog) (request : PlanningRequest)
    (document : PlanDocument) (plan : Plan) (took : Nat) : Prop where
  proposes : proposer.propose request = some ⟨.ok document, took⟩
  means : document.plan catalog = .ok plan

namespace Router

/-- The proposer whose document counts: the first one, or the fallback when asking the first one
fails. -/
inductive Chooses (router : Router) (catalog : Catalog) (request : PlanningRequest) :
    Proposer → PlanDocument → Plan → (took : Nat) → Prop where
  | primary {document : PlanDocument} {plan : Plan} {took : Nat}
      (means : router.primary.Means catalog request document plan took) :
      router.Chooses catalog request router.primary document plan took
  | fallback {proposer : Proposer} {document : PlanDocument} {plan : Plan} {fault : ProposalFault}
      {first second : Nat}
      (fails : consult catalog request router.primary = some ⟨.error fault, first⟩)
      (isThere : router.fallback = some proposer)
      (means : proposer.Means catalog request document plan second) :
      router.Chooses catalog request proposer document plan (first + second)

/-- Asking a proposer gives a plan when it answers with a document that means the plan. -/
theorem consult_eq_ok_iff {catalog : Catalog} {request : PlanningRequest} {proposer : Proposer}
    {routed : RoutedPlan} {took : Nat} :
    consult catalog request proposer = some ⟨.ok routed, took⟩ ↔
      ∃ document plan, proposer.Means catalog request document plan took ∧
        routed = ⟨plan, document.reasoning, proposer.name⟩ := by
  constructor
  · intro consulted
    obtain ⟨⟨outcome, time⟩, proposes, same⟩ := Option.map_eq_some_iff.1 consulted
    obtain ⟨isOk, rfl⟩ := Routing.mk.inj same
    obtain ⟨document, rfl, settled⟩ := bind_eq_ok_iff.1 isOk
    obtain ⟨plan, means, same⟩ := bind_eq_ok_iff.1 settled
    exact ⟨document, plan, ⟨proposes, eq_ok_of_mapError_eq_ok means⟩, pure_eq_ok_iff.1 same⟩
  · rintro ⟨document, plan, ⟨proposes, means⟩, rfl⟩
    rw [consult, proposes]
    simp [settle, means, Except.mapError, Except.bind, bind, pure, Except.pure]

/-- Asking the proposers gives the plan of the document that counts. -/
theorem consultAll_eq_ok_iff {router : Router} {catalog : Catalog} {request : PlanningRequest}
    {routed : RoutedPlan} {took : Nat} :
    router.consultAll catalog request = some ⟨.ok routed, took⟩ ↔
      ∃ proposer document plan, router.Chooses catalog request proposer document plan took ∧
        routed = ⟨plan, document.reasoning, proposer.name⟩ := by
  constructor
  · intro consulted
    obtain ⟨⟨outcome, first⟩, ofFirst, consulted⟩ := Option.bind_eq_some_iff.1 consulted
    simp only at consulted
    split at consulted
    case h_1 fault proposer isThere =>
      obtain ⟨⟨outcome, second⟩, ofSecond, same⟩ := Option.bind_eq_some_iff.1 consulted
      obtain ⟨rfl, rfl⟩ := Routing.mk.inj (Option.some.inj same)
      obtain ⟨document, plan, means, rfl⟩ := consult_eq_ok_iff.1 ofSecond
      exact ⟨proposer, document, plan, .fallback ofFirst isThere means, rfl⟩
    case h_2 =>
      obtain ⟨rfl, rfl⟩ := Routing.mk.inj (Option.some.inj consulted)
      obtain ⟨document, plan, means, rfl⟩ := consult_eq_ok_iff.1 ofFirst
      exact ⟨router.primary, document, plan, .primary means, rfl⟩
  · rintro ⟨proposer, document, plan, chooses, rfl⟩
    cases chooses with
    | primary means =>
        rw [consultAll, consult_eq_ok_iff.2 ⟨document, plan, means, rfl⟩]
        rfl
    | fallback fails isThere means =>
        rw [consultAll, fails]
        simp only [Option.bind_eq_bind, Option.bind_some, isThere,
          consult_eq_ok_iff.2 ⟨document, plan, means, rfl⟩]
        rfl

/-- Where generated queries are not allowed, what leaves routing is an operation. -/
theorem isOperation_of_allowed {settings : RoutingSettings} {detected : List Detected}
    {routed result : RoutedPlan} (disallowed : settings.allowDynamicQueries = false)
    (isAllowed : allowed settings detected routed = .ok result) :
    ∃ given, result.plan = .operation given := by
  rw [allowed, disallowed, if_neg Bool.false_ne_true, downgrade] at isAllowed
  split at isAllowed
  case h_1 given isOperation =>
    cases isAllowed
    exact ⟨given, isOperation⟩
  case h_2 =>
    split at isAllowed
    · cases isAllowed
    · cases isAllowed
      exact ⟨_, rfl⟩

theorem isOperation_of_route {router : Router} {catalog : Catalog} {question : String}
    {detected : List Detected} {routed : RoutedPlan} {took : Nat}
    (disallowed : router.settings.allowDynamicQueries = false)
    (routes : router.route catalog question detected = some ⟨.ok routed, took⟩) :
    ∃ given, routed.plan = .operation given := by
  obtain ⟨routing, -, same⟩ := Option.map_eq_some_iff.1 routes
  obtain ⟨isOk, -⟩ := Routing.mk.inj same
  obtain ⟨before, -, isAllowed⟩ := bind_eq_ok_iff.1 isOk
  exact isOperation_of_allowed disallowed isAllowed

end Router

/-! ## Calls -/

/-- The execution of an operation calls it once, unless execution is cancelled before. -/
theorem Executor.calls_execute_operation (executor : Executor State) (given : Operation)
    (world : World State) :
    (executor.execute (.operation given) world).2.calls =
      world.calls ++ if world.isCancelled then [] else [.operation given] := by
  obtain ⟨calls, ofCalls, isFirst, once⟩ := executor.execute_calls (.operation given) world
  rw [ofCalls]
  congr 1
  split
  case isTrue cancelled =>
    rw [if_pos cancelled] at isFirst
    exact List.head?_eq_none_iff.1 isFirst
  case isFalse goesOn =>
    rw [if_neg goesOn] at isFirst
    obtain ⟨rest, rfl⟩ := List.head?_eq_some_iff.1 isFirst
    obtain rfl := List.eq_nil_of_length_eq_zero
      (Nat.le_zero.1 (Nat.le_of_succ_le_succ (once given rfl)))
    rfl

/-- Between two worlds no call is made but for operations. -/
def World.Operates (world later : World State) : Prop :=
  ∃ calls, later.calls = world.calls ++ calls ∧ ∀ call ∈ calls, ∃ given, call = .operation given

namespace World

theorem Idle.operates {world later : World State} (idle : world.Idle later) :
    world.Operates later :=
  ⟨[], by rw [idle.calls, List.append_nil], nofun⟩

theorem Operates.trans {world settled later : World State} (first : world.Operates settled)
    (second : settled.Operates later) : world.Operates later := by
  obtain ⟨calls, ofFirst, areOperations⟩ := first
  obtain ⟨others, ofSecond, alsoOperations⟩ := second
  refine ⟨calls ++ others, by rw [ofSecond, ofFirst, List.append_assoc], ?_⟩
  intro call member
  rcases List.mem_append.1 member with member | member
  · exact areOperations call member
  · exact alsoOperations call member

end World

namespace Session

/-- The calls of a question that is executed are those of its execution. -/
theorem calls_worldAfter_execute (session : Session) (store : RecordStore State)
    {trace : Trace} {given : Operation} {world start : World State} {took : Nat}
    (spent : (session.begun world).spend took = .ok start) :
    (worldAfter (session.execute store trace (.operation given) start)).calls =
      world.calls ++ if start.isCancelled then [] else [.operation given] := by
  have before := ((session.idle_begun world).trans (World.idle_of_spend spent)).calls
  rw [(idle_worldAfter _).calls, world_execute, Executor.calls_execute_operation, before]

/-- A plan that is prepared from an operation is this operation. -/
theorem prepare_operation {session : Session} {detected : List Detected} {given : Operation}
    {plan : Plan} (prepared : session.prepare detected (.operation given) = .ok plan) :
    plan = .operation given := by
  obtain ⟨_, -, same⟩ := map_eq_ok_iff.1 prepared
  exact same

/-- Where generated queries are not allowed, a question leads to no call but of operations. -/
theorem operates_answer {session : Session} {store : RecordStore State} {question : String}
    {world after : World State} {response : Response}
    (disallowed : session.router.settings.allowDynamicQueries = false)
    (answered : session.answer store question world = some (response, after)) :
    world.Operates after := by
  rcases answer_cases answered with ⟨_, _, -, -, idle⟩ |
    ⟨detected, routed, plan, took, start, progress, prepared, spent, rfl, -, rfl⟩
  · exact idle.operates
  · obtain ⟨given, isOperation⟩ := Router.isOperation_of_route disallowed prepared.routes
    obtain rfl := prepare_operation (isOperation ▸ prepared.prepares)
    refine ⟨_, calls_worldAfter_execute session store spent, ?_⟩
    intro call member
    split at member
    · cases member
    · exact ⟨given, List.mem_singleton.1 member⟩

theorem operates_answerAll {session : Session} {store : RecordStore State}
    {questions : List String} {world after : World State} {responses : List Response}
    (disallowed : session.router.settings.allowDynamicQueries = false)
    (answered : session.answerAll store questions world = some (responses, after)) :
    world.Operates after :=
  answerAll_induction (fun world => (World.Idle.refl world).operates)
    (fun _ _ _ _ _ first rest => (operates_answer disallowed first).trans rest) answered

/-- The listing of the entity detected first is accepted. -/
theorem check_listing {session : Session} {question : String} {top : Detected}
    {others : List Detected}
    (detects : Detection.detect session.settings.detection session.catalog question =
      top :: others) :
    Check.plan session.catalog (.operation (Router.listing top.entityName)) session.parser =
      .ok () :=
  Check.operation_listing
    (Detection.known_detect _ _ question top (detects ▸ List.mem_cons_self ..))

/-- Where generated queries are not allowed, a question whose proposer has one gets as far as
execution with a listing of the entity detected first. -/
theorem prepares_listing {session : Session} {question : String} {top : Detected}
    {others : List Detected} {proposer : Proposer} {document : PlanDocument}
    {given : GeneratedQuery} {took : Nat}
    (disallowed : session.router.settings.allowDynamicQueries = false)
    (asks : Text.trimmed question ≠ "")
    (detects : Detection.detect session.settings.detection session.catalog
      (Text.trimmed question) = top :: others)
    (chooses : session.router.Chooses session.catalog
      (.ofDetected session.catalog (Text.trimmed question) (top :: others)) proposer document
        (.query given) took) :
    session.Prepares question (top :: others)
      ⟨.operation (Router.listing top.entityName),
        document.reasoning ++ " (downgraded: dynamic queries disabled)", proposer.name⟩
      (.operation (Router.listing top.entityName)) took := by
  refine ⟨asks, detects, List.cons_ne_nil _ _, ?_, ?_⟩
  · rw [Router.route]
    simp only [Router.consultAll_eq_ok_iff.2 ⟨proposer, document, _, chooses, rfl⟩]
    simp [Router.allowed, disallowed, Router.downgrade, Router.listedEntity?, Except.bind]
  · rw [prepare, ← Check.plan, check_listing detects]
    rfl

/-- **Where generated queries are not allowed, none is run.**

Whatever is proposed and whatever the record store does, every call for a question, and for any
number of questions, is an operation.  And where the document that counts means a generated query,
what is executed is a search of the entity detected first, for 20 records at most, which passes the
check; it is called once, unless cancellation was asked for before. -/
theorem only_operations_are_called (session : Session) (store : RecordStore State)
    (disallowed : session.router.settings.allowDynamicQueries = false) :
    (∀ question world response after,
      session.answer store question world = some (response, after) → world.Operates after) ∧
    (∀ questions world responses after,
      session.answerAll store questions world = some (responses, after) → world.Operates after) ∧
    ∀ question top others proposer document given took,
      Text.trimmed question ≠ "" →
      Detection.detect session.settings.detection session.catalog (Text.trimmed question) =
        top :: others →
      session.router.Chooses session.catalog
        (.ofDetected session.catalog (Text.trimmed question) (top :: others)) proposer document
          (.query given) took →
      ∃ listing : Operation,
        listing = ⟨"dynamic_search", { doctype := some top.entityName, limit := some 20 }⟩ ∧
        Check.plan session.catalog (.operation listing) session.parser = .ok () ∧
        (∃ routed, session.Prepares question (top :: others) routed (.operation listing) took) ∧
        ∀ world start, (session.begun world).spend took = .ok start →
          ∃ response after, session.answer store question world = some (response, after) ∧
            after.calls =
              world.calls ++ if start.isCancelled then [] else [.operation listing] := by
  refine ⟨fun _ _ _ _ => operates_answer disallowed, fun _ _ _ _ => operates_answerAll disallowed,
    ?_⟩
  intro question top others proposer document given took asks detects chooses
  have prepared := prepares_listing disallowed asks detects chooses
  refine ⟨Router.listing top.entityName, rfl, check_listing detects, ⟨_, prepared⟩, ?_⟩
  intro world start spent
  exact ⟨_, _, answer_of_prepares prepared store spent,
    calls_worldAfter_execute session store spent⟩

/-- A session that runs no generated query, whose first proposer fails and whose fallback has the
query of items. -/
def listingSession : Session :=
  { itemQuerySession with
    router :=
      { primary := .fixed (.error (.planning .noEntity))
        fallback := some itemQuerySession.router.primary
        settings := { allowDynamicQueries := false } } }

/-- A question about customers for which items are queried leads to a listing of customers. -/
theorem only_operations_are_called_listing :
    (∃ responses after, listingSession.answerAll .scripted ["customers", "items"]
        interruptedWorld = some (responses, after) ∧ interruptedWorld.Operates after) ∧
    ∃ response after, listingSession.answer .scripted "customers" interruptedWorld =
        some (response, after) ∧
      after.calls =
        [.operation ⟨"dynamic_search", { doctype := some "Customer", limit := some 20 }⟩] := by
  obtain ⟨-, operates, lists⟩ := only_operations_are_called listingSession
    (.scripted : RecordStore (List Reply)) rfl
  constructor
  · have answers : ((listingSession.answerAll .scripted ["customers", "items"]
        interruptedWorld).map fun _ => ()) = some () := by
      decide +kernel
    obtain ⟨⟨responses, after⟩, answered, -⟩ := Option.map_eq_some_iff.1 answers
    exact ⟨responses, after, answered, operates _ _ _ _ answered⟩
  · have chooses : listingSession.router.Chooses listingSession.catalog
        (.ofDetected listingSession.catalog (Text.trimmed "customers") customersFound)
        itemQuerySession.router.primary
        { code := some itemQuery.code, referencedEntities := itemQuery.referencedEntities }
        (.query itemQuery) (0 + 0) :=
      .fallback rfl rfl ⟨rfl, rfl⟩
    obtain ⟨listing, rfl, -, -, calls⟩ := lists "customers" _ _ _ _ _ _
      prepares_itemQuery.asks prepares_itemQuery.detects chooses
    exact calls interruptedWorld _ rfl

end Session

end Inquiry
