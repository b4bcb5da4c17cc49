import Inquiry.Proofs.Answering

/-!
# Cancellation is final

Cancellation can be asked for at any time that execution waits: while proposers
think, while the record store runs a call, in the pause before another attempt,
between questions, and by a deadline that passes.  Every request is recorded
among the calls, and whether execution goes on is read off that record where an
attempt begins.

So after a request there is no call.  One execution makes its calls first and
finds requests only after them, or none of its calls at all
(`Executor.respects_execute`); the same holds of a question, and by induction of
whatever a shared world goes through (`Goes`).  An attempt that is awaited ends
the question when the wait ends in a cancelled world or at the deadline
(`Executor.execute_of_awaits`).  Both are put together in `cancellation_final`.
-/

set_option autoImplicit false

namespace Inquiry

variable {State : Type}

/-! ## Records in which cancellation is final -/

/-- In a record of events nothing comes after a request to cancel but other requests. -/
def IsFinal (events : List Event) : Prop :=
  events.Pairwise fun earlier later => earlier = .cancellation → later = .cancellation

/-- Requests to cancel, and nothing else. -/
theorem isFinal_requests (requests : Nat) : IsFinal (List.replicate requests .cancellation) :=
  List.pairwise_of_forall_mem_list fun _ _ _ member _ => List.eq_of_mem_replicate member

/-- Calls before requests to cancel. -/
theorem isFinal_calls_append (calls : List Call) {requests : List Event}
    (isFinal : IsFinal requests) : IsFinal (calls.map Event.call ++ requests) := by
  have noRequest : ∀ event ∈ calls.map Event.call, event ≠ .cancellation := by
    intro event member
    obtain ⟨call, -, rfl⟩ := List.mem_map.1 member
    exact nofun
  refine List.pairwise_append.2 ⟨?_, isFinal, fun earlier member _ _ same => ?_⟩
  · exact List.pairwise_of_forall_mem_list fun earlier member _ _ same =>
      absurd same (noRequest earlier member)
  · exact absurd same (noRequest earlier member)

namespace World

theorem isCancelled_iff {world : World State} :
    world.isCancelled = true ↔ Event.cancellation ∈ world.events := by
  rw [isCancelled, List.any_eq_true]
  constructor
  · rintro ⟨event, member, noCall⟩
    cases event with
    | call made => cases noCall
    | cancellation => exact member
  · intro member
    exact ⟨_, member, rfl⟩

/-- What happens between two worlds respects cancellation: nothing but requests to cancel comes
after a request, be it one of the first world or one made between them. -/
def Respects (world later : World State) : Prop :=
  ∃ new, later.events = world.events ++ new ∧ IsFinal new ∧
    (world.isCancelled = true → ∀ event ∈ new, event = .cancellation)

theorem Idle.respects {world later : World State} (idle : world.Idle later) :
    world.Respects later := by
  obtain ⟨-, requests, events⟩ := idle
  exact ⟨_, events, isFinal_requests requests, fun _ _ => List.eq_of_mem_replicate⟩

theorem Respects.trans {world settled later : World State} (first : world.Respects settled)
    (second : settled.Respects later) : world.Respects later := by
  obtain ⟨new, ofFirst, isFinal, respected⟩ := first
  obtain ⟨others, ofSecond, stillFinal, stillRespected⟩ := second
  refine ⟨new ++ others, by rw [ofSecond, ofFirst, List.append_assoc], ?_, ?_⟩
  · refine List.pairwise_append.2 ⟨isFinal, stillFinal, ?_⟩
    rintro earlier member event ofOthers rfl
    refine stillRespected (isCancelled_iff.2 ?_) event ofOthers
    rw [ofFirst]
    exact List.mem_append_right _ member
  · intro cancelled event member
    rcases List.mem_append.1 member with ofNew | ofOthers
    · exact respected cancelled event ofNew
    · refine stillRespected (isCancelled_iff.2 ?_) event ofOthers
      rw [ofFirst]
      exact List.mem_append_left _ (isCancelled_iff.1 cancelled)

theorem respects_cancel (world : World State) : world.Respects world.cancel :=
  Idle.respects ⟨rfl, 1, rfl⟩

end World

/-! ## One execution -/

namespace Executor

/-- An execution respects cancellation: its calls come before every request that it finds. -/
theorem respects_execute (executor : Executor State) (plan : Plan) (world : World State) :
    world.Respects (executor.execute plan world).2 := by
  obtain ⟨calls, requests, events, isFirst, -⟩ := executor.attempt_events
    (attemptsAllowed executor.settings - 1) 0 [.pending] plan world
  refine ⟨_, events, isFinal_calls_append calls (isFinal_requests requests), ?_⟩
  intro cancelled
  rw [if_pos cancelled, List.head?_eq_none_iff] at isFirst
  rw [isFirst]
  intro _
  exact List.eq_of_mem_replicate

/-- In the execution of a plan in a world another attempt is awaited after `made` attempts, with
the plan `next`.  The wait ends in the world where the attempt may begin, or at the deadline. -/
inductive Awaits (executor : Executor State) (plan : Plan) (world : World State) :
    (made : Nat) → (next : Plan) → (ending : Except Stop (World State)) → Prop where
  /-- The first attempt may begin at once. -/
  | first : executor.Awaits plan world 0 plan (.ok world)
  /-- An attempt that is not cancelled leads to another one, if one is allowed and may help. -/
  | again {made : Nat} {current next : Plan} {now : World State}
      (awaited : executor.Awaits plan world made current (.ok now))
      (goesOn : ¬ now.isCancelled = true)
      (allowed : made + 1 < attemptsAllowed executor.settings)
      (asks : executor.AsksFor current now next) :
      executor.Awaits plan world (made + 1) next (executor.waited current now)

/-- The plan that is asked for is determined. -/
theorem AsksFor.unique {executor : Executor State} {plan next other : Plan} {world : World State}
    (asks : executor.AsksFor plan world next) (alsoAsks : executor.AsksFor plan world other) :
    next = other := by
  obtain ⟨error, failed, again⟩ := asks
  obtain ⟨same, alsoFailed, alsoAgain⟩ := alsoAsks
  obtain rfl := Except.error.inj (failed.symm.trans alsoFailed)
  exact Option.some.inj (again.symm.trans alsoAgain)

/-- An execution in which an attempt is awaited goes on with that attempt where the wait ends in a
world, and is timed out where it ends at the deadline. -/
theorem execute_of_awaits {executor : Executor State} {plan next : Plan} {world : World State}
    {made : Nat} {ending : Except Stop (World State)}
    (awaits : executor.Awaits plan world made next ending) :
    (∀ now, ending = .ok now →
      ∃ left states, left + made + 1 = attemptsAllowed executor.settings ∧
        executor.execute plan world = executor.attempt left made states next now) ∧
    ∀ stop, ending = .error stop →
      ∃ after, executor.execute plan world = (.error .timedOut, after) := by
  induction awaits with
  | first =>
      have some : 1 ≤ attemptsAllowed executor.settings := by
        simp only [attemptsAllowed, mostAttempts]
        omega
      constructor
      · rintro now ⟨⟩
        exact ⟨attemptsAllowed executor.settings - 1, [.pending], by omega, rfl⟩
      · rintro stop ⟨⟩
  | @again made current next now awaited goesOn allowed asks ih =>
      obtain ⟨left, states, balance, sofar⟩ := ih.1 now rfl
      obtain ⟨fewer, rfl⟩ := Nat.exists_eq_add_one_of_ne_zero (n := left) (by omega)
      rcases executor.attempt_step (fewer + 1) made states current goesOn with
        ⟨after, -, cut, timedOut⟩ | ⟨_, -, last, -⟩ |
          ⟨_, other, later, same, alsoAsks, waits, -, again⟩
      · rw [cut]
        constructor
        · rintro now ⟨⟩
        · intro _ _
          exact ⟨after, sofar.trans timedOut⟩
      · exact absurd asks (last fewer next rfl)
      · obtain rfl := Nat.succ.inj same
        obtain rfl := asks.unique alsoAsks
        rw [waits]
        constructor
        · rintro _ ⟨⟩
          exact ⟨fewer, _, by omega, sofar.trans again⟩
        · rintro stop ⟨⟩

end Executor

/-! ## Questions and sessions -/

namespace Session

/-- A question respects cancellation. -/
theorem respects_answer {session : Session} {store : RecordStore State} {question : String}
    {world after : World State} {response : Response}
    (answered : session.answer store question world = some (response, after)) :
    world.Respects after := by
  rcases answer_cases answered with ⟨_, _, -, -, idle⟩ |
    ⟨detected, routed, plan, took, start, progress, -, spent, rfl, -, rfl⟩
  · exact idle.respects
  · have before := (session.idle_begun world).trans (World.idle_of_spend spent)
    refine (before.respects.trans ?_).trans (idle_worldAfter _).respects
    rw [world_execute]
    exact Executor.respects_execute ..

/-- What a shared world goes through: questions, which proposers may answer differently every time,
and requests to cancel between them. -/
inductive Goes (session : Session) (store : RecordStore State) :
    World State → World State → Prop where
  /-- Nothing happens. -/
  | stays (world : World State) : session.Goes store world world
  /-- A question is answered, and other things follow. -/
  | asked (router : Router) (question : String) {world later after : World State}
      {response : Response}
      (answered : { session with router }.answer store question world = some (response, later))
      (rest : session.Goes store later after) : session.Goes store world after
  /-- Cancellation is asked for, and other things follow. -/
  | cancelled {world after : World State} (rest : session.Goes store world.cancel after) :
      session.Goes store world after

/-- Whatever a shared world goes through respects cancellation. -/
theorem Goes.respects {session : Session} {store : RecordStore State} {world after : World State}
    (goes : session.Goes store world after) : world.Respects after := by
  induction goes with
  | stays world => exact (World.Idle.refl world).respects
  | asked router question answered rest ih => exact (respects_answer answered).trans ih
  | cancelled rest ih => exact (World.respects_cancel _).trans ih

/-- The questions of a session are something that its world goes through. -/
theorem goes_of_answerAll {session : Session} {store : RecordStore State}
    {questions : List String} {world after : World State} {responses : List Response}
    (answered : session.answerAll store questions world = some (responses, after)) :
    session.Goes store world after :=
  answerAll_induction .stays
    (fun question _ _ _ _ first rest => .asked session.router question first rest) answered

/-- A question awaits an attempt after `made` attempts: it gets as far as execution in time, and
its execution awaits the attempt. -/
def Awaits (session : Session) (store : RecordStore State) (question : String)
    (world : World State) (made : Nat) (ending : Except Stop (World State)) : Prop :=
  ∃ detected routed plan took start next,
    session.Prepares question detected routed plan took ∧
    (session.begun world).spend took = .ok start ∧
    (session.executor store detected).Awaits plan start made next ending

/-- The response of a question whose execution is stopped tells why, and after a deadline the world
is cancelled. -/
theorem answer_of_stopped {session : Session} {store : RecordStore State} {question : String}
    {detected : List Detected} {routed : RoutedPlan} {plan : Plan} {took : Nat} {stop : Stop}
    {world start after : World State}
    (prepared : session.Prepares question detected routed plan took)
    (spent : (session.begun world).spend took = .ok start)
    (stopped : (session.executor store detected).execute plan start = (.error stop, after)) :
    ∃ response, response.outcome = .error (session.stopFailure stop) ∧
      session.answer store question world =
        some (response, if stop = .timedOut then after.cancel else after) := by
  rw [answer_of_prepares prepared store spent]
  have executed : session.execute store (knownBefore detected routed plan) plan start =
      ⟨.error (session.stopFailure stop), knownBefore detected routed plan, after⟩ := by
    rw [execute, show (knownBefore detected routed plan).detected = detected from rfl, stopped]
  simp only [executed]
  refine ⟨(knownBefore detected routed plan).respond (.error (session.stopFailure stop)), rfl, ?_⟩
  cases stop <;> rfl

/-- **Cancellation is final.**

Whatever a shared world goes through, no call of the record store comes after a request to cancel,
in the same question or a later one.  A question that awaits an attempt is cancelled before this
attempt where the wait ends in a cancelled world, and timed out where the deadline ends it.  And a
question that is timed out leaves the world cancelled. -/
theorem cancellation_final (session : Session) (store : RecordStore State) :
    (∀ world after, session.Goes store world after → world.Respects after) ∧
    (∀ questions world responses after,
      session.answerAll store questions world = some (responses, after) → world.Respects after) ∧
    (∀ question world made ending, session.Awaits store question world made ending →
      ∃ response after, session.answer store question world = some (response, after) ∧
        (∀ now, ending = .ok now → now.isCancelled = true →
          response.outcome = .error (.cancelled (made + 1)) ∧ after = now) ∧
        ∀ stop, ending = .error stop → ∃ limit, response.outcome = .error (.timedOut limit)) ∧
    ∀ question world response after limit,
      session.answer store question world = some (response, after) →
        response.outcome = .error (.timedOut limit) → after.isCancelled = true := by
  refine ⟨fun _ _ => Goes.respects, fun _ _ _ _ answered => (goes_of_answerAll answered).respects,
    ?_, ?_⟩
  · rintro question world made ending ⟨detected, routed, plan, took, start, next, prepared, spent,
      awaits⟩
    obtain ⟨goesOn, cut⟩ := Executor.execute_of_awaits awaits
    cases ending with
    | error stop =>
        obtain ⟨after, stopped⟩ := cut stop rfl
        obtain ⟨response, outcome, answered⟩ := answer_of_stopped prepared spent stopped
        exact ⟨response, _, answered, nofun, fun _ _ => ⟨_, outcome⟩⟩
    | ok now =>
        by_cases cancelled : now.isCancelled = true
        · obtain ⟨left, states, -, begins⟩ := goesOn now rfl
          rw [Executor.attempt_of_isCancelled _ left made states next cancelled] at begins
          obtain ⟨response, outcome, answered⟩ := answer_of_stopped prepared spent begins
          refine ⟨response, now, answered, ?_, nofun⟩
          rintro _ ⟨⟩ -
          exact ⟨outcome, rfl⟩
        · refine ⟨_, _, answer_of_prepares prepared store spent, ?_, nofun⟩
          rintro _ ⟨⟩ isCancelled
          exact absurd isCancelled cancelled
  · intro question world response after limit answered timedOut
    obtain ⟨progress, -, same⟩ := Option.map_eq_some_iff.1 answered
    obtain ⟨rfl, rfl⟩ := Prod.mk.inj same
    rw [Trace.outcome_respond] at timedOut
    cases reached : progress.outcome with
    | ok result =>
        rw [reached] at timedOut
        cases timedOut
    | error failure =>
        rw [reached] at timedOut
        obtain rfl := Except.error.inj timedOut
        rw [worldAfter, reached]
        exact World.isCancelled_cancel _

/-- The query that is attempted in place of the query of items. -/
def customerQuery : GeneratedQuery where
  code := "SELECT name FROM `tabCustomer`"
  referencedEntities := ["Customer"]

/-- In the interrupted world the first attempt asks for another one. -/
theorem asksFor_customerQuery (world : World (List Reply))
    (store : world.store = interruptedWorld.store) :
    (itemQuerySession.executor .scripted customersFound).AsksFor (.query itemQuery) world
      (.query customerQuery) := by
  refine ⟨RecordStore.missingTable "tabItem", by rw [store]; rfl, ?_⟩
  have diagnosed : (RecordStore.missingTable "tabItem").diagnosis =
      ⟨.incorrectTableName, some "tabItem".toList⟩ := by
    decide +kernel
  have redirected : Executor.redirected? itemQuerySession.catalog customersFound
      (some "tabItem".toList) itemQuery = some customerQuery := by
    decide +kernel
  simp only [Executor.nextPlan?, diagnosed]
  exact congrArg (Option.map Plan.query) redirected

/-- In the interrupted world one call is made for two questions, and the first question is
cancelled before its second attempt. -/
theorem cancellation_final_interrupted :
    (∃ responses after, itemQuerySession.answerAll .scripted ["customers", "items"]
        interruptedWorld = some (responses, after) ∧
      after.calls.map Call.text = ["SELECT name FROM `tabItem`"] ∧
      interruptedWorld.Respects after) ∧
    ∃ response after, itemQuerySession.answer .scripted "customers" interruptedWorld =
        some (response, after) ∧
      response.outcome = .error (.cancelled 2) := by
  obtain ⟨-, respects, cancelled, -⟩ :=
    cancellation_final itemQuerySession (.scripted : RecordStore (List Reply))
  constructor
  · have texts : (itemQuerySession.answerAll .scripted ["customers", "items"]
        interruptedWorld).map (fun ended => ended.2.calls.map Call.text) =
          some ["SELECT name FROM `tabItem`"] := by
      decide +kernel
    obtain ⟨⟨responses, after⟩, answered, calls⟩ := Option.map_eq_some_iff.1 texts
    exact ⟨responses, after, answered, calls, respects _ _ _ _ answered⟩
  · have awaits := Executor.Awaits.first.again (by decide)
      (show 0 + 1 < Executor.attemptsAllowed itemQuerySession.settings.retry by decide)
      (asksFor_customerQuery (itemQuerySession.begun interruptedWorld) rfl)
    obtain ⟨response, after, answered, stops, -⟩ := cancelled "customers" interruptedWorld 1 _
      ⟨customersFound, _, _, 0, _, _, prepares_itemQuery, rfl, awaits⟩
    exact ⟨response, after, answered, (stops _ rfl rfl).1⟩

end Session

end Inquiry
