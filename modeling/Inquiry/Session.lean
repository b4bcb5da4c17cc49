import Inquiry.Check.Basic
import Inquiry.Execution.Attempts
import Inquiry.Planning.Router
import Inquiry.Response

/-!
# Sessions

A session answers questions about the records of a catalog.  A question goes
through the stages one after the other: its entities are detected, it is
routed to a plan, the plan is checked, a generated query is repaired and
checked again, and the plan is executed.  The first stage that fails decides
the response.

The questions of a session share one world.  So once cancellation is asked
for, by whom it may be, no later question turns to the record store; and a
question whose deadline passes asks for cancellation itself.
-/

set_option autoImplicit false

namespace Inquiry

/-- What is needed to answer questions. -/
structure Session where
  catalog : Catalog
  settings : Settings
  router : Router
  /-- What reads the code of generated queries when they are checked. -/
  parser : Sql.Parser := .byRules

/-- How far a question got. -/
structure Progress (State : Type) where
  outcome : Except Failure ExecutionResult
  trace : Trace
  world : World State

namespace Session

variable {State : Type}

/-! ## Starting -/

/-- The session that follows settings: by rules, or by a model with the rules to fall back on. -/
def ofSettings (catalog : Catalog) (settings : Settings) (transport : Transport) :
    Except SettingsFault Session := do
  settings.check
  let router : Router :=
    match settings.model.provider with
    | .rules => { primary := Proposer.rules, settings := settings.routing }
    | _ =>
        { primary := Proposer.model settings.model transport
          fallback := some Proposer.rules
          settings := settings.routing }
  return { catalog, settings, router }

/-! ## Preparing a plan -/

/-- A generated query checked, repaired and checked again; only what a repair may help is let
through the first check. -/
def prepareQuery (session : Session) (detected : List Detected) (given : GeneratedQuery) :
    Except Failure GeneratedQuery := do
  match Check.query session.parser session.catalog given with
  | .ok () => pure ()
  | .error fault => if fault.isRepairable then pure () else throw (.check fault)
  let corrected ←
    (Correction.query session.settings.correction session.catalog detected given).mapError
      .correction
  (Check.query session.parser session.catalog corrected).mapError .check
  return corrected

/-- A plan ready for execution. -/
def prepare (session : Session) (detected : List Detected) : Plan → Except Failure Plan
  | .operation given =>
      ((Check.operation session.catalog given).mapError .check).map fun _ => .operation given
  | .query given => (session.prepareQuery detected given).map .query

/-! ## Stages -/

/-- The failure that a stop is. -/
def stopFailure (session : Session) : Stop → Failure
  | .cancelled attempt => .cancelled attempt
  | .timedOut => .timedOut (session.settings.timeout.getD 0)

/-- What executes the plans of a session. -/
def executor (session : Session) (store : RecordStore State) (detected : List Detected) :
    Executor State where
  store
  catalog := session.catalog
  settings := session.settings.retry
  detected

/-- The stage of execution. -/
def execute (session : Session) (store : RecordStore State) (trace : Trace) (plan : Plan)
    (world : World State) : Progress State :=
  match (session.executor store trace.detected).execute plan world with
  | (.error stop, world) => ⟨.error (session.stopFailure stop), trace, world⟩
  | (.ok result, world) =>
      let trace := { trace with
        attempts := result.attempts, queryText := some result.queryExecuted }
      match result.toFailure? with
      | some failure => ⟨.error failure, trace, world⟩
      | none => ⟨.ok result, trace, world⟩

/-- The stages after routing. -/
def carryOut (session : Session) (store : RecordStore State) (trace : Trace)
    (routed : RoutedPlan) (world : World State) : Progress State :=
  let trace := { trace with
    reasoning := some routed.reasoning
    executionType := some routed.plan.executionType
    queryText := some routed.plan.text }
  match session.prepare trace.detected routed.plan with
  | .error failure => ⟨.error failure, trace, world⟩
  | .ok plan => session.execute store { trace with queryText := some plan.text } plan world

/-- The stages after detection; none is no end ever. -/
def plan (session : Session) (store : RecordStore State) (trace : Trace) (question : String)
    (world : World State) : Option (Progress State) :=
  match session.router.route session.catalog question trace.detected with
  | none =>
      world.remaining.map fun _ => ⟨.error (session.stopFailure .timedOut), trace, world⟩
  | some routing =>
      some <|
        match world.spend routing.took with
        | .error stop => ⟨.error (session.stopFailure stop), trace, world⟩
        | .ok world =>
            match routing.outcome with
            | .error fault => ⟨.error fault.failure, trace, world⟩
            | .ok routed => session.carryOut store trace routed world

/-- All stages of a question; none is no end ever. -/
def run (session : Session) (store : RecordStore State) (question : String)
    (world : World State) : Option (Progress State) :=
  let question := Text.trimmed question
  if question = "" then some ⟨.error .blankQuestion, {}, world⟩
  else
    let detected := Detection.detect session.settings.detection session.catalog question
    let trace : Trace := { detected }
    if detected.isEmpty then some ⟨.error (.nothingDetected question), trace, world⟩
    else session.plan store trace question world

/-! ## Answering -/

/-- The world that the next question finds: cancelled if the deadline passed. -/
def worldAfter (progress : Progress State) : World State :=
  match progress.outcome with
  | .error (.timedOut _) => progress.world.cancel
  | _ => progress.world

/-- The response to a question, and the world after it; none is no response ever. -/
def answer (session : Session) (store : RecordStore State) (question : String)
    (world : World State) : Option (Response × World State) :=
  let world := { world with remaining := session.settings.timeout }
  (session.run store question world).map fun progress =>
    (progress.trace.respond progress.outcome, worldAfter progress)

/-- The responses to several questions, and the world after them; none is no response ever to
one of them. -/
def answerAll (session : Session) (store : RecordStore State) :
    List String → World State → Option (List Response × World State)
  | [], world => some ([], world)
  | question :: rest, world => do
      let (response, world) ← session.answer store question world
      let (responses, world) ← session.answerAll store rest world
      return (response :: responses, world)

end Session

end Inquiry
