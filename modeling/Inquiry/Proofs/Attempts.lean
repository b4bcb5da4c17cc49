import Inquiry.Execution.Attempts
import Inquiry.Store.Scripted
import Mathlib.Data.List.Chain

/-!
# The course of an execution

An execution is a loop around the record store, and it is left in six ways.
One attempt either ends it, with the rows or the failure of the call that was
made, or it fails over a table name and hands another query to the next
attempt (`attempt_step`).  Everything else about a whole execution follows by
induction on the attempts that are left: how many calls were made, what the
store replied to each, what states were passed through, and that the result is
that of the last call (`attempt_course`, `execute_course`).

The calls of an execution are read off the world that it leaves.  What the
store replied to them is not recorded there; but a store is a function of its
state, so the replies are what it replies to the same calls made once more
(`RecordStore.replies`).
-/

set_option autoImplicit false

namespace Inquiry

variable {State : Type}

/-! ## Replies to calls -/

/-- What a store replies to calls that are made one after the other. -/
def RecordStore.replies (store : RecordStore State) : List Call → State → List Reply
  | [], _ => []
  | call :: rest, state =>
      (store.run call state).1 :: store.replies rest (store.run call state).2

/-! ## What happens meanwhile -/

namespace World

/-- Between two worlds nothing happens but requests to cancel. -/
structure Idle (world later : World State) : Prop where
  store : later.store = world.store
  events : ∃ requests, later.events = world.events ++ List.replicate requests .cancellation

/-- Between two worlds one call is made, and after it nothing happens but requests to cancel. -/
structure Called (store : RecordStore State) (call : Call) (world later : World State) : Prop where
  store : later.store = (store.run call world.store).2
  events : ∃ requests,
    later.events = world.events ++ .call call :: List.replicate requests .cancellation

theorem Idle.refl (world : World State) : world.Idle world :=
  ⟨rfl, 0, (List.append_nil _).symm⟩

theorem Idle.trans {world settled later : World State} (first : world.Idle settled)
    (second : settled.Idle later) : world.Idle later := by
  obtain ⟨sameStore, requests, ofFirst⟩ := first
  obtain ⟨stillSame, others, ofSecond⟩ := second
  refine ⟨stillSame.trans sameStore, requests + others, ?_⟩
  rw [ofSecond, ofFirst, List.append_assoc, List.replicate_append_replicate]

/-- Nothing happens while time passes but requests to cancel. -/
theorem idle_pass (time : Nat) (world : World State) : world.Idle (world.pass time) := by
  rw [pass]
  split
  · exact ⟨rfl, 0, (List.append_nil _).symm⟩
  · split
    · exact ⟨rfl, 1, rfl⟩
    · exact ⟨rfl, 0, (List.append_nil _).symm⟩

theorem idle_of_spend {time : Nat} {world later : World State}
    (spent : world.spend time = .ok later) : world.Idle later := by
  rw [spend] at spent
  split at spent
  · cases spent
  · cases spent
    exact idle_pass time world

/-- Time that cannot be spent is cut by the deadline. -/
theorem eq_timedOut_of_spend {time : Nat} {world : World State} {stop : Stop}
    (cut : world.spend time = .error stop) : stop = .timedOut := by
  rw [spend] at cut
  split at cut <;> cases cut
  rfl

theorem called_run (store : RecordStore State) (call : Call) (world : World State) :
    Called store call world (world.run store call).2 := by
  refine ⟨rfl, ?_⟩
  simp only [run]
  split
  · exact ⟨1, rfl⟩
  · exact ⟨0, rfl⟩

theorem Called.trans_idle {store : RecordStore State} {call : Call}
    {world settled later : World State} (called : Called store call world settled)
    (idle : settled.Idle later) : Called store call world later := by
  obtain ⟨storeOfCall, requests, ofCall⟩ := called
  obtain ⟨sameStore, others, ofWait⟩ := idle
  refine ⟨sameStore.trans storeOfCall, requests + others, ?_⟩
  rw [ofWait, ofCall, List.append_assoc, List.cons_append, List.replicate_append_replicate]

theorem calls_of_events {world later : World State} {new : List Event}
    (events : later.events = world.events ++ new) :
    later.calls = world.calls ++ new.filterMap Event.call? := by
  rw [calls, events, List.filterMap_append]
  rfl

theorem Idle.calls {world later : World State} (idle : world.Idle later) :
    later.calls = world.calls := by
  obtain ⟨-, requests, events⟩ := idle
  simp [calls_of_events events, Event.call?]

theorem Called.calls {store : RecordStore State} {call : Call} {world later : World State}
    (called : Called store call world later) : later.calls = world.calls ++ [call] := by
  obtain ⟨-, requests, events⟩ := called
  simp [calls_of_events events, Event.call?]

end World

namespace Executor

/-! ## Another plan -/

/-- Another plan is attempted only for a query, after an error about a table, and has another
text. -/
theorem nextPlan?_inv {executor : Executor State} {plan next : Plan} {error : StoreError}
    (again : executor.nextPlan? plan error = some next) :
    error.diagnosis.kind = .incorrectTableName ∧
      (∃ given, plan = .query given) ∧ (∃ given, next = .query given) ∧
        plan.call.text ≠ next.call.text := by
  simp only [nextPlan?] at again
  split at again
  case h_1 given isAboutTable =>
    obtain ⟨other, redirected, rfl⟩ := Option.map_eq_some_iff.1 again
    obtain ⟨target, -, redirected⟩ := Option.bind_eq_some_iff.1 redirected
    simp only at redirected
    split at redirected
    · cases redirected
    case isFalse differs =>
      obtain rfl := Option.some.inj redirected
      refine ⟨isAboutTable, ⟨given, rfl⟩, ⟨_, rfl⟩, fun same => differs ?_⟩
      simp only [Plan.call, Call.text] at same
      rw [← String.toList_ofList (l := Correction.retarget _ _ _ _), ← same]
  · cases again

/-! ## One attempt -/

/-- What a call gives for the result: its rows, or its error worded for people. -/
def outcomeOf (reply : Reply) : Except ExecutionFailure (List Row) :=
  match reply.outcome with
  | .ok rows => .ok rows
  | .error error => .error error.failure

/-- The last state of an execution whose last call had a reply. -/
def lastState (reply : Reply) : ExecutionState :=
  match reply.outcome with
  | .ok _ => .succeeded
  | .error _ => .failed

/-- The call of a plan fails in a way that another plan may mend. -/
def AsksFor (executor : Executor State) (plan : Plan) (world : World State) (next : Plan) : Prop :=
  ∃ error, (executor.store.run plan.call world.store).1.outcome = .error error ∧
    executor.nextPlan? plan error = some next

/-- How the wait for another attempt ends, which is as long as the call and a pause: in a world, or
by the deadline. -/
def waited (executor : Executor State) (plan : Plan) (world : World State) :
    Except Stop (World State) := do
  let (reply, called) := world.run executor.store plan.call
  let settled ← called.spend reply.took
  settled.spend executor.settings.backoff

/-- An execution that is cancelled makes no attempt. -/
theorem attempt_of_isCancelled (executor : Executor State) (left made : Nat)
    (states : List ExecutionState) (plan : Plan) {world : World State}
    (cancelled : world.isCancelled = true) :
    executor.attempt left made states plan world = (.error (.cancelled (made + 1)), world) := by
  rw [attempt, if_pos cancelled]

/-- **What one attempt does** where execution is not cancelled.

It makes its call.  Then the deadline passes, in the call or in the pause after it; or the result is
that of the call; or another attempt is made, because the call fails in a way that another plan may
mend. -/
theorem attempt_step (executor : Executor State) (left made : Nat) (states : List ExecutionState)
    (plan : Plan) {world : World State} (goesOn : ¬ world.isCancelled = true) :
    (∃ later, World.Called executor.store plan.call world later ∧
      executor.waited plan world = .error .timedOut ∧
      executor.attempt left made states plan world = (.error .timedOut, later)) ∨
    (∃ later, World.Called executor.store plan.call world later ∧
      (∀ fewer next, left = fewer + 1 → ¬ executor.AsksFor plan world next) ∧
      executor.attempt left made states plan world =
        (.ok ⟨outcomeOf (executor.store.run plan.call world.store).1, plan.text, made + 1,
          states ++ [.executing, lastState (executor.store.run plan.call world.store).1]⟩, later)) ∨
    ∃ fewer next later, left = fewer + 1 ∧ executor.AsksFor plan world next ∧
      executor.waited plan world = .ok later ∧
      World.Called executor.store plan.call world later ∧
      executor.attempt left made states plan world =
        executor.attempt fewer (made + 1) (states ++ [.executing, .retrying]) next later := by
  have called := World.called_run executor.store plan.call world
  rw [attempt, if_neg goesOn]
  simp only [waited, AsksFor]
  have sameReply : (world.run executor.store plan.call).1 =
      (executor.store.run plan.call world.store).1 := rfl
  rw [← sameReply]
  generalize world.run executor.store plan.call = ran at called
  obtain ⟨reply, settled⟩ := ran
  cases spent : settled.spend reply.took with
  | error stop =>
      obtain rfl := World.eq_timedOut_of_spend spent
      exact .inl ⟨settled, called, rfl, rfl⟩
  | ok ended =>
      replace called := called.trans_idle (World.idle_of_spend spent)
      cases outcome : reply.outcome with
      | ok rows =>
          refine .inr (.inl ⟨ended, called, ?_, ?_⟩)
          · rintro _ _ - ⟨error, failed, -⟩
            cases failed
          · simp [outcomeOf, lastState, outcome]
      | error error =>
          cases again : executor.nextPlan? plan error with
          | none =>
              refine .inr (.inl ⟨ended, called, ?_, ?_⟩)
              · rintro _ _ - ⟨other, failed, helps⟩
                obtain rfl := Except.error.inj failed
                rw [again] at helps
                cases helps
              · simp [outcomeOf, lastState, outcome, again]
          | some next =>
              cases left with
              | zero =>
                  refine .inr (.inl ⟨ended, called, nofun, ?_⟩)
                  simp [outcomeOf, lastState, outcome]
              | succ fewer =>
                  cases paused : ended.spend executor.settings.backoff with
                  | error stop =>
                      obtain rfl := World.eq_timedOut_of_spend paused
                      exact .inl ⟨ended, called, paused, by simp [again, paused]⟩
                  | ok later =>
                      exact .inr (.inr ⟨fewer, next, later, rfl, ⟨error, rfl, again⟩, paused,
                        called.trans_idle (World.idle_of_spend paused),
                        by simp [again, paused]⟩)

/-! ## All attempts -/

/-- What a run of attempts does: the calls that it makes, and the result that it ends with.  At
most `left` attempts come after the first one, `made` were made before and led through `states`. -/
structure Course (executor : Executor State) (left made : Nat) (states : List ExecutionState)
    (plan : Plan) (start : State) (calls : List Call) (result : ExecutionResult) : Prop where
  called : 1 ≤ calls.length
  bounded : calls.length ≤ left + 1
  attempts : result.attempts = made + calls.length
  states : result.states =
    states ++ ((List.replicate (calls.length - 1) [.executing, .retrying]).flatten ++
      [.executing, if result.succeeded then .succeeded else .failed])
  /-- Every call but the last one failed over a table name. -/
  failures : ∀ reply ∈ (executor.store.replies calls start).dropLast,
    ∃ error, reply.outcome = .error error ∧ error.diagnosis.kind = .incorrectTableName
  ofQuery : 1 < calls.length → ∃ given, plan = .query given
  first : calls.head? = some plan.call
  /-- No call repeats the one before. -/
  differ : calls.IsChain (fun call next => call.text ≠ next.text)
  last : ∃ call reply, calls.getLast? = some call ∧
    (executor.store.replies calls start).getLast? = some reply ∧
    result.queryExecuted = call.text ∧ result.outcome = outcomeOf reply

/-- The course of a run that ends with its first attempt. -/
theorem course_of_last (executor : Executor State) (left made : Nat)
    (states : List ExecutionState) (plan : Plan) (start : State) :
    Course executor left made states plan start [plan.call]
      ⟨outcomeOf (executor.store.run plan.call start).1, plan.text, made + 1,
        states ++ [.executing, lastState (executor.store.run plan.call start).1]⟩ where
  called := Nat.le_refl 1
  bounded := Nat.le_add_left 1 left
  attempts := rfl
  states := by
    cases outcome : (executor.store.run plan.call start).1.outcome <;>
      simp [ExecutionResult.succeeded, outcomeOf, lastState, outcome]
  failures := by simp [RecordStore.replies]
  ofQuery := fun more => absurd more (Nat.lt_irrefl 1)
  first := rfl
  differ := List.isChain_singleton _
  last := ⟨plan.call, _, rfl, rfl, plan.text_call.symm, rfl⟩

/-- A run whose first attempt fails over a table name goes on with the run of the next plan. -/
theorem Course.again {executor : Executor State} {left made : Nat} {states : List ExecutionState}
    {plan next : Plan} {start : State} {error : StoreError} {calls : List Call}
    {result : ExecutionResult}
    (failed : (executor.store.run plan.call start).1.outcome = .error error)
    (again : executor.nextPlan? plan error = some next)
    (rest : Course executor left (made + 1) (states ++ [.executing, .retrying]) next
      (executor.store.run plan.call start).2 calls result) :
    Course executor (left + 1) made states plan start (plan.call :: calls) result := by
  obtain ⟨isAboutTable, ofQuery, -, differs⟩ := nextPlan?_inv again
  obtain ⟨call, others, rfl⟩ := List.exists_cons_of_length_pos rest.called
  obtain rfl : call = next.call := Option.some.inj rest.first
  refine ⟨?_, ?_, ?_, ?_, ?_, ?_, ?_, ?_, ?_⟩
  · simp
  · simpa using rest.bounded
  · rw [rest.attempts]
    simp only [List.length_cons]
    omega
  · rw [rest.states]
    simp [List.replicate_succ]
  · intro reply member
    simp only [RecordStore.replies, List.dropLast_cons_cons, List.mem_cons] at member
    rcases member with rfl | member
    · exact ⟨error, failed, isAboutTable⟩
    · exact rest.failures reply member
  · intro _
    exact ofQuery
  · rfl
  · exact List.isChain_cons_cons.2 ⟨differs, rest.differ⟩
  · obtain ⟨call, reply, lastCall, lastReply, executed, outcome⟩ := rest.last
    exact ⟨call, reply, by simpa using lastCall, by simpa [RecordStore.replies] using lastReply,
      executed, outcome⟩

/-- A run of attempts that ends with a result takes its course. -/
theorem attempt_course {executor : Executor State} {left made : Nat}
    {states : List ExecutionState} {plan : Plan} {world after : World State}
    {result : ExecutionResult}
    (finished : executor.attempt left made states plan world = (.ok result, after)) :
    ∃ calls, after.calls = world.calls ++ calls ∧
      Course executor left made states plan world.store calls result := by
  induction left using Nat.strongRecOn generalizing made states plan world with
  | ind left ih =>
    by_cases cancelled : world.isCancelled = true
    · rw [attempt_of_isCancelled executor left made states plan cancelled] at finished
      cases finished
    · rcases executor.attempt_step left made states plan cancelled with
        ⟨_, -, -, timedOut⟩ | ⟨later, called, -, isLast⟩ |
          ⟨fewer, next, later, rfl, ⟨error, failed, again⟩, -, called, goesOn⟩
      · rw [timedOut] at finished
        cases finished
      · rw [isLast] at finished
        cases finished
        exact ⟨[plan.call], called.calls, course_of_last ..⟩
      · rw [goesOn] at finished
        obtain ⟨calls, whole, rest⟩ := ih fewer (Nat.lt_succ_self fewer) finished
        rw [called.store] at rest
        refine ⟨plan.call :: calls, ?_, rest.again failed again⟩
        rw [whole, called.calls, List.append_assoc, List.singleton_append]

/-- **The events of a run of attempts**: its calls, and after them requests to cancel.  The first
call is that of the plan, and there is one unless execution is cancelled; an operation is called
once. -/
theorem attempt_events (executor : Executor State) (left made : Nat)
    (states : List ExecutionState) (plan : Plan) (world : World State) :
    ∃ (calls : List Call) (requests : Nat),
      (executor.attempt left made states plan world).2.events =
        world.events ++ (calls.map Event.call ++ List.replicate requests .cancellation) ∧
      calls.head? = (if world.isCancelled then none else some plan.call) ∧
      ∀ given, plan = .operation given → calls.length ≤ 1 := by
  induction left using Nat.strongRecOn generalizing made states plan world with
  | ind left ih =>
    by_cases cancelled : world.isCancelled = true
    · rw [attempt_of_isCancelled executor left made states plan cancelled, if_pos cancelled]
      exact ⟨[], 0, (List.append_nil _).symm, rfl, fun _ _ => Nat.zero_le 1⟩
    · rw [if_neg cancelled]
      rcases executor.attempt_step left made states plan cancelled with
        ⟨later, called, -, isLast⟩ | ⟨later, called, -, isLast⟩ |
          ⟨fewer, next, later, rfl, ⟨error, -, again⟩, -, called, goesOn⟩
      · obtain ⟨requests, events⟩ := called.events
        rw [isLast]
        exact ⟨[plan.call], requests, events, rfl, fun _ _ => Nat.le_refl 1⟩
      · obtain ⟨requests, events⟩ := called.events
        rw [isLast]
        exact ⟨[plan.call], requests, events, rfl, fun _ _ => Nat.le_refl 1⟩
      · obtain ⟨requests, events⟩ := called.events
        obtain ⟨calls, others, rest, isFirst, -⟩ := ih fewer (Nat.lt_succ_self fewer) (made + 1)
          (states ++ [.executing, .retrying]) next later
        rw [goesOn, rest, events]
        cases requests with
        | zero =>
            refine ⟨plan.call :: calls, others, by simp, rfl, ?_⟩
            obtain ⟨-, ⟨given, rfl⟩, -⟩ := nextPlan?_inv again
            exact nofun
        | succ more =>
            -- A request during the wait leaves no call to the attempts that follow.
            have stopped : later.isCancelled = true := by
              simp [World.isCancelled, events, Event.call?]
            rw [if_pos stopped] at isFirst
            obtain rfl := List.head?_eq_none_iff.1 isFirst
            refine ⟨[plan.call], more + 1 + others, ?_, rfl, fun _ _ => Nat.le_refl 1⟩
            simp

/-! ## A whole execution -/

/-- The calls of an execution, however it ends: the first one is that of the plan, and there is one
unless execution is cancelled before; an operation is called once. -/
theorem execute_calls (executor : Executor State) (plan : Plan) (world : World State) :
    ∃ calls, (executor.execute plan world).2.calls = world.calls ++ calls ∧
      calls.head? = (if world.isCancelled then none else some plan.call) ∧
      ∀ given, plan = .operation given → calls.length ≤ 1 := by
  obtain ⟨calls, requests, events, isFirst, once⟩ :=
    executor.attempt_events (attemptsAllowed executor.settings - 1) 0 [.pending] plan world
  have isCall : Event.call? ∘ Event.call = some := rfl
  refine ⟨calls, ?_, isFirst, once⟩
  rw [execute, World.calls_of_events events]
  simp [isCall, Event.call?]

/-- The course of every execution that ends with a result.

It made at least one call and at most as many as are allowed, which is never more than three; it
went from one call to the next only for a query, after an error over a table name and with another
text; and its result is that of the last call. -/
theorem execute_course (executor : Executor State) (plan : Plan) (world after : World State)
    (result : ExecutionResult) (finished : executor.execute plan world = (.ok result, after)) :
    ∃ calls, after.calls = world.calls ++ calls ∧
      1 ≤ calls.length ∧ calls.length ≤ min (max executor.settings.maxAttempts 1) 3 ∧
      result.attempts = calls.length ∧
      result.states = .pending ::
        ((List.replicate (calls.length - 1) [.executing, .retrying]).flatten ++
          [.executing, if result.succeeded then .succeeded else .failed]) ∧
      (∀ reply ∈ (executor.store.replies calls world.store).dropLast,
        ∃ error, reply.outcome = .error error ∧ error.diagnosis.kind = .incorrectTableName) ∧
      (1 < calls.length → ∃ given, plan = .query given) ∧
      calls.head? = some plan.call ∧
      calls.IsChain (fun call next => call.text ≠ next.text) ∧
      ∃ call reply, calls.getLast? = some call ∧
        (executor.store.replies calls world.store).getLast? = some reply ∧
        result.queryExecuted = call.text ∧
        match reply.outcome with
        | .ok rows => result.succeeded = true ∧ result.rows = rows ∧ result.rowCount = rows.length
        | .error _ => result.succeeded = false ∧ result.rows = [] ∧ result.rowCount = 0 := by
  obtain ⟨calls, whole, course⟩ := attempt_course finished
  have allowed : attemptsAllowed executor.settings - 1 + 1 =
      min (max executor.settings.maxAttempts 1) 3 := by
    simp only [attemptsAllowed, mostAttempts]
    omega
  obtain ⟨call, reply, lastCall, lastReply, executed, outcome⟩ := course.last
  refine ⟨calls, whole, course.called, allowed ▸ course.bounded, ?_, course.states,
    course.failures, course.ofQuery, course.first, course.differ, call, reply, lastCall,
    lastReply, executed, ?_⟩
  · exact course.attempts.trans (Nat.zero_add _)
  · cases reached : reply.outcome with
    | ok rows =>
        simp [ExecutionResult.succeeded, ExecutionResult.rows, ExecutionResult.rowCount, outcome,
          outcomeOf, reached]
    | error error =>
        simp [ExecutionResult.succeeded, ExecutionResult.rows, ExecutionResult.rowCount, outcome,
          outcomeOf, reached]

/-- An executor that knows items, whose store complains about a table once. -/
def itemExecutor : Executor (List Reply) where
  store := .scripted
  catalog := .alone { name := "Item", fields := [] } (by decide +kernel)
  settings := { maxAttempts := 7, backoff := 5 }
  detected := [⟨"Item", .one, true, "item"⟩]

/-- A query of a table that there is not. -/
def misnamedQuery : Plan := .query { code := "SELECT `tabZzz`", referencedEntities := [] }

/-- A world whose store misses a table and then finds nothing. -/
def missingWorld : World (List Reply) where
  store := [{ outcome := .error (RecordStore.missingTable "tabZzz") }, { outcome := .ok [] }]

/-- The query of a table that there is not is attempted again for items. -/
theorem execute_course_misnamed :
    ∃ result after, itemExecutor.execute misnamedQuery missingWorld = (.ok result, after) ∧
      after.calls.map Call.text = ["SELECT `tabZzz`", "SELECT `tabItem`"] ∧
      result.attempts = 2 ∧
      result.states = [.pending, .executing, .retrying, .executing,
        if result.succeeded then .succeeded else .failed] := by
  have isOk : (itemExecutor.execute misnamedQuery missingWorld).1.isOk = true := by
    decide +kernel
  have texts : (itemExecutor.execute misnamedQuery missingWorld).2.calls.map Call.text =
      ["SELECT `tabZzz`", "SELECT `tabItem`"] := by
    decide +kernel
  rcases reached : itemExecutor.execute misnamedQuery missingWorld with ⟨ended, after⟩
  rw [reached] at isOk texts
  cases ended with
  | error stop => cases isOk
  | ok result =>
      obtain ⟨calls, whole, -, -, attempts, states, -⟩ :=
        execute_course itemExecutor misnamedQuery missingWorld after result reached
      have two : calls.length = 2 := by
        have counted := congrArg List.length texts
        rw [whole, List.length_map, List.length_append] at counted
        exact (Nat.zero_add _).symm.trans counted
      rw [two] at attempts states
      exact ⟨result, after, rfl, texts, attempts, states⟩

end Executor

end Inquiry
