import Inquiry.Proofs.Attempts
import Inquiry.Session
import Inquiry.Store.Scripted

/-!
# How questions are answered

A question passes through the stages of a session, and its response is decided
in one of two places.  Either a stage before execution fails, or takes longer
than the deadline allows, and then the record store is not called; or the
question gets as far as execution, with a prepared plan (`Prepares`), and then
the response is that of the execution (`answer_cases`).  A question that gets
that far and does not run out of time on the way is answered by its execution,
whatever it ends with (`answer_of_prepares`).
-/

set_option autoImplicit false

namespace Inquiry

variable {State : Type}

namespace Session

/-! ## As far as execution -/

/-- A question gets as far as execution: entities are detected in it, it is routed in some time,
and the plan that it is routed to is prepared. -/
structure Prepares (session : Session) (question : String) (detected : List Detected)
    (routed : RoutedPlan) (plan : Plan) (took : Nat) : Prop where
  asks : Text.trimmed question ≠ ""
  detects : Detection.detect session.settings.detection session.catalog
    (Text.trimmed question) = detected
  found : detected ≠ []
  routes : session.router.route session.catalog (Text.trimmed question) detected =
    some ⟨.ok routed, took⟩
  prepares : session.prepare detected routed.plan = .ok plan

/-- What is known about a question that gets as far as execution. -/
def knownBefore (detected : List Detected) (routed : RoutedPlan) (plan : Plan) : Trace where
  detected
  reasoning := some routed.reasoning
  executionType := some routed.plan.executionType
  queryText := some plan.text

/-- The world in which a question begins: its deadline is as far as the settings say. -/
def begun (session : Session) (world : World State) : World State :=
  { world with remaining := session.settings.timeout }

theorem idle_begun (session : Session) (world : World State) : world.Idle (session.begun world) :=
  ⟨rfl, 0, (List.append_nil _).symm⟩

theorem idle_worldAfter (progress : Progress State) :
    progress.world.Idle (worldAfter progress) := by
  rw [worldAfter]
  split
  · exact ⟨rfl, 1, rfl⟩
  · exact .refl _

/-! ## Stages -/

/-- The world that execution leaves is the one that the executor leaves. -/
theorem world_execute (session : Session) (store : RecordStore State) (trace : Trace)
    (plan : Plan) (world : World State) :
    (session.execute store trace plan world).world =
      ((session.executor store trace.detected).execute plan world).2 := by
  rw [execute]
  split
  case h_1 stop after ends => rw [ends]
  case h_2 result after ends =>
    rw [ends]
    simp only
    split <;> rfl

/-- A question that gets as far as execution is executed, unless the deadline passes before. -/
theorem run_of_prepares {session : Session} {question : String} {detected : List Detected}
    {routed : RoutedPlan} {plan : Plan} {took : Nat}
    (prepared : session.Prepares question detected routed plan took) (store : RecordStore State)
    (world : World State) :
    session.run store question world = some (match world.spend took with
      | .error stop => ⟨.error (session.stopFailure stop), { detected }, world⟩
      | .ok start => session.execute store (knownBefore detected routed plan) plan start) := by
  obtain ⟨asks, detects, found, routes, prepares⟩ := prepared
  rw [run]
  simp only [asks, if_false, detects, List.isEmpty_iff, found, Session.plan, routes]
  cases world.spend took with
  | error stop => rfl
  | ok start =>
      simp only [carryOut, prepares]
      rfl

/-- A question is not executed, or it gets as far as execution. -/
theorem run_cases {session : Session} {store : RecordStore State} {question : String}
    {world : World State} {progress : Progress State}
    (ran : session.run store question world = some progress) :
    (∃ failure, progress.outcome = .error failure ∧ progress.trace.attempts = 0 ∧
      world.Idle progress.world) ∨
    ∃ detected routed plan took start, session.Prepares question detected routed plan took ∧
      world.spend took = .ok start ∧
      progress = session.execute store (knownBefore detected routed plan) plan start := by
  rw [run] at ran
  split at ran
  case isTrue => exact .inl (Option.some.inj ran ▸ ⟨_, rfl, rfl, .refl world⟩)
  case isFalse asks =>
    simp only at ran
    split at ran
    case isTrue => exact .inl (Option.some.inj ran ▸ ⟨_, rfl, rfl, .refl world⟩)
    case isFalse found =>
      rw [Session.plan] at ran
      split at ran
      case h_1 =>
        obtain ⟨limit, -, rfl⟩ := Option.map_eq_some_iff.1 ran
        exact .inl ⟨_, rfl, rfl, .refl world⟩
      case h_2 routing routes =>
        replace ran := Option.some.inj ran
        split at ran
        case h_1 => exact .inl (ran ▸ ⟨_, rfl, rfl, .refl world⟩)
        case h_2 start spent =>
          split at ran
          case h_1 => exact .inl (ran ▸ ⟨_, rfl, rfl, World.idle_of_spend spent⟩)
          case h_2 routed isOk =>
            rw [carryOut] at ran
            split at ran
            case h_1 => exact .inl (ran ▸ ⟨_, rfl, rfl, World.idle_of_spend spent⟩)
            case h_2 plan prepares =>
              refine .inr ⟨_, routed, plan, routing.took, start, ⟨asks, rfl, ?_, ?_, prepares⟩,
                spent, ran.symm⟩
              · intro none
                exact found (List.isEmpty_iff.2 none)
              · rw [routes, ← isOk]

/-! ## Answers -/

/-- **Where a question is answered**: before execution, and then nothing happens but requests to
cancel and no attempt is reported; or by the execution of its plan. -/
theorem answer_cases {session : Session} {store : RecordStore State} {question : String}
    {world after : World State} {response : Response}
    (answered : session.answer store question world = some (response, after)) :
    (∃ (trace : Trace) (failure : Failure), trace.attempts = 0 ∧
      response = trace.respond (.error failure) ∧ world.Idle after) ∨
    ∃ detected routed plan took start progress,
      session.Prepares question detected routed plan took ∧
      (session.begun world).spend took = .ok start ∧
      progress = session.execute store (knownBefore detected routed plan) plan start ∧
      response = progress.trace.respond progress.outcome ∧ after = worldAfter progress := by
  obtain ⟨progress, ran, same⟩ := Option.map_eq_some_iff.1 answered
  obtain ⟨rfl, rfl⟩ := Prod.mk.inj same
  rcases run_cases ran with ⟨failure, outcome, attempts, idle⟩ |
    ⟨detected, routed, plan, took, start, prepared, spent, rfl⟩
  · refine .inl ⟨progress.trace, failure, attempts, by rw [outcome], ?_⟩
    exact ((session.idle_begun world).trans idle).trans (idle_worldAfter progress)
  · exact .inr ⟨detected, routed, plan, took, start, _, prepared, spent, rfl, rfl, rfl⟩

/-- A question that gets as far as execution before its deadline is answered by its execution. -/
theorem answer_of_prepares {session : Session} {question : String} {detected : List Detected}
    {routed : RoutedPlan} {plan : Plan} {took : Nat}
    (prepared : session.Prepares question detected routed plan took) (store : RecordStore State)
    {world start : World State} (spent : (session.begun world).spend took = .ok start) :
    session.answer store question world =
      let progress := session.execute store (knownBefore detected routed plan) plan start
      some (progress.trace.respond progress.outcome, worldAfter progress) := by
  have ran := run_of_prepares prepared store (session.begun world)
  rw [spent] at ran
  rw [answer, show { world with remaining := session.settings.timeout } = session.begun world
    from rfl, ran]
  rfl

/-- What holds of a world and itself, and is carried back over a question, holds over all questions
of a session. -/
theorem answerAll_induction {session : Session} {store : RecordStore State}
    {relates : World State → World State → Prop} (stays : ∀ world, relates world world)
    (asked : ∀ question world response later after,
      session.answer store question world = some (response, later) → relates later after →
        relates world after)
    {questions : List String} {world after : World State} {responses : List Response}
    (answered : session.answerAll store questions world = some (responses, after)) :
    relates world after := by
  induction questions generalizing world responses with
  | nil =>
      obtain ⟨-, rfl⟩ := Prod.mk.inj (Option.some.inj answered)
      exact stays world
  | cons question rest ih =>
      obtain ⟨⟨response, later⟩, first, answered⟩ := Option.bind_eq_some_iff.1 answered
      obtain ⟨⟨others, last⟩, ofRest, same⟩ := Option.bind_eq_some_iff.1 answered
      obtain ⟨-, rfl⟩ := Prod.mk.inj (Option.some.inj same)
      exact asked question world response later last first (ih ofRest)

/-! ## A session that is interrupted -/

/-- A query of items. -/
def itemQuery : GeneratedQuery where
  code := "SELECT name FROM `tabItem`"
  referencedEntities := ["Item"]

/-- A session about customers, items and suppliers, with a proposer that always has the query of
items. -/
def itemQuerySession : Session where
  catalog :=
    { entities :=
        [{ name := "Customer", fields := [] }, { name := "Item", fields := [] },
          { name := "Supplier", fields := [] }]
      ordered := by decide +kernel
      distinct := by decide +kernel
      named := by decide +kernel }
  settings := {}
  router :=
    { primary := .fixed (.ok {
        code := some itemQuery.code
        referencedEntities := itemQuery.referencedEntities }) }

/-- What is detected in a question about customers. -/
def customersFound : List Detected :=
  [⟨"Customer", Double.ofDecimal false 9 (-1), true, "customers"⟩]

/-- A world whose store misses the table of items while cancellation is asked for. -/
def interruptedWorld : World (List Reply) where
  store := [{ outcome := .error (RecordStore.missingTable "tabItem"), cancels := true }]

/-- A question about customers gets as far as execution with the query of items. -/
theorem prepares_itemQuery :
    itemQuerySession.Prepares "customers" customersFound ⟨.query itemQuery, "", "scripted"⟩
      (.query itemQuery) 0 := by
  have isPrepared :
      (itemQuerySession.prepareQuery customersFound itemQuery).toOption = some itemQuery := by
    decide +kernel
  have prepared : itemQuerySession.prepareQuery customersFound itemQuery = .ok itemQuery := by
    cases made : itemQuerySession.prepareQuery customersFound itemQuery with
    | error fault =>
        rw [made] at isPrepared
        cases isPrepared
    | ok query =>
        rw [made] at isPrepared
        rw [Option.some.inj isPrepared]
  refine ⟨by decide +kernel, by decide +kernel, by decide, rfl, ?_⟩
  rw [prepare, prepared]
  rfl

end Session

end Inquiry
