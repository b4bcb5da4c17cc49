import Inquiry.Proofs.Answering

/-!
# What responses tell

A response says whether it has rows, how many, how many attempts were made and
the text that was executed last.  The first two are read off the response
itself, by the members of its JSON (`isCoherent_json`).  The other two speak of
the calls that the record store received for the question, so they are compared
with the record of calls that the question leaves (`Tells`).

They agree for every question that ends with a result or before execution.  They
part where execution is stopped: what is known about the question is brought up
to date by the result of execution only, so a question that is cancelled or
timed out tells of no attempt and of the text that was prepared, whatever was
called (`answer_tells_iff`).  That is true only when nothing was.
-/

set_option autoImplicit false

namespace Inquiry

variable {State : Type}

/-! ## Members of an object -/

namespace Json

/-- The value of a name among members of which one is put. -/
theorem lookUp_putMember (name other : String) (value : Json) (members : List (String × Json)) :
    lookUp name (putMember other value members) =
      if other = name then some value else lookUp name members := by
  induction members with
  | nil => by_cases same : other = name <;> simp [putMember, lookUp, same]
  | cons first rest ih =>
      obtain ⟨key, old⟩ := first
      rw [putMember]
      split
      · by_cases same : other = name <;> simp [lookUp, same]
      · split
        case isTrue replaces =>
          subst replaces
          by_cases same : other = name <;> simp [lookUp, same]
        case isFalse later =>
          by_cases here : key = name
          · simp [lookUp, here, here ▸ later]
          · simpa [lookUp, here] using ih

/-- The value of a name in the object of a list of members is that of its last member. -/
theorem member?_ofMembers (name : String) (members : List (String × Json)) :
    (ofMembers members).member? name = lookUp name members.reverse := by
  induction members using List.reverseRecOn with
  | nil => rfl
  | append_singleton front last ih =>
      have put : (ofMembers (front ++ [last])).member? name =
          if last.1 = name then some last.2 else (ofMembers front).member? name := by
        rw [ofMembers, orderMembers, List.foldl_append]
        exact lookUp_putMember name last.1 last.2 _
      rw [put, ih, List.reverse_append]
      by_cases same : last.1 = name <;> simp [lookUp, same]

end Json

namespace Response

/-! ## Inside a response -/

/-- A response that agrees with itself: it is a success exactly when it has data and no error, and
its data counts the results. -/
structure IsCoherent (response : Json) : Prop where
  success : response.member? "success" =
    some (.bool ((response.member? "data").isSome && (response.member? "error").isNone))
  count : ∀ data ∈ response.member? "data", ∃ results,
    data.member? "results" = some (.array results) ∧
      data.member? "count" = some (.natural results.length)

theorem isCoherent_json (response : Response) : IsCoherent response.json := by
  have data : response.json.member? "data" = response.outcome.toOption.map fun rows =>
      Json.ofMembers [("results", .array (rows.map .object)), ("count", .natural rows.length)] := by
    cases reached : response.outcome <;>
      simp [reached, json, members, outcomeMember, Json.member?_ofMembers, Json.lookUp,
        Except.toOption]
  constructor
  · cases reached : response.outcome <;>
      simp [reached, json, members, outcomeMember, succeeded, Json.member?_ofMembers, Json.lookUp]
  · intro value isData
    rw [data] at isData
    obtain ⟨rows, -, rfl⟩ := Option.map_eq_some_iff.1 isData
    refine ⟨rows.map .object, ?_, ?_⟩ <;> simp [Json.member?_ofMembers, Json.lookUp]

/-- The attempts that a response tells of. -/
theorem member?_json_attempts (response : Response) :
    response.json.member? "attempts" = some (.natural response.attempts) := by
  rw [json, Json.member?_ofMembers]
  rfl

theorem member?_json_queryExecuted (response : Response) :
    response.json.member? "query_executed" = some (optionalText response.queryExecuted) := by
  rw [json, Json.member?_ofMembers]
  rfl

/-! ## Against the calls -/

/-- A response that tells how many calls were made, and the text of the last one. -/
structure Tells (response : Json) (calls : List Call) : Prop where
  attempts : response.member? "attempts" = some (.natural calls.length)
  last : ∀ call ∈ calls.getLast?, response.member? "query_executed" = some (.string call.text)

theorem tells_json_iff (response : Response) (calls : List Call) :
    Tells response.json calls ↔ response.attempts = calls.length ∧
      ∀ call ∈ calls.getLast?, response.queryExecuted = some call.text := by
  constructor
  · rintro ⟨attempts, last⟩
    rw [member?_json_attempts] at attempts
    constructor
    · exact_mod_cast Number.integer.inj (Json.number.inj (Option.some.inj attempts))
    · intro call isLast
      have told := last call isLast
      rw [member?_json_queryExecuted] at told
      cases executed : response.queryExecuted with
      | none =>
          rw [executed] at told
          cases told
      | some text =>
          rw [executed] at told
          cases told
          rfl
  · rintro ⟨attempts, last⟩
    constructor
    · rw [member?_json_attempts, attempts]
    · intro call isLast
      rw [member?_json_queryExecuted, last call isLast]
      rfl

/-- A response that tells of no attempt tells nothing about calls. -/
theorem Tells.calls_eq_nil {response : Response} {calls : List Call}
    (tells : Tells response.json calls) (attempts : response.attempts = 0) : calls = [] :=
  List.length_eq_zero_iff.1 (((tells_json_iff response calls).1 tells).1.symm.trans attempts)

/-- A response to a question that was cancelled or timed out. -/
def IsStopped (response : Response) : Prop :=
  (∃ attempt, response.outcome = .error (.cancelled attempt)) ∨
    ∃ limit, response.outcome = .error (.timedOut limit)

end Response

namespace Session

/-- What the response to an executed question tells, and the calls of its execution: what was known
before, if it is stopped, and else the number of calls and the text of the last one. -/
theorem execute_tells (session : Session) (store : RecordStore State) (trace : Trace) (plan : Plan)
    (world : World State) {progress : Progress State} {response : Response}
    (executed : progress = session.execute store trace plan world)
    (responded : response = progress.trace.respond progress.outcome) :
    ∃ calls, progress.world.calls = world.calls ++ calls ∧
      ((response.IsStopped ∧ response.attempts = trace.attempts ∧
          response.queryExecuted = trace.queryText ∧ ∀ call ∈ calls.head?, call = plan.call) ∨
        (¬ response.IsStopped ∧ response.attempts = calls.length ∧
          ∀ call ∈ calls.getLast?, response.queryExecuted = some call.text)) := by
  have whole := session.world_execute store trace plan world
  rw [← executed] at whole
  rw [execute] at executed
  split at executed
  case h_1 stop after ends =>
    obtain ⟨calls, ofCalls, isFirst, -⟩ :=
      (session.executor store trace.detected).execute_calls plan world
    subst executed responded
    refine ⟨calls, whole ▸ ofCalls, .inl ⟨?_, rfl, ?_, fun call member => ?_⟩⟩
    · cases stop with
      | cancelled attempt => exact .inl ⟨attempt, rfl⟩
      | timedOut => exact .inr ⟨_, rfl⟩
    · cases stop <;> rfl
    · rw [isFirst, Option.mem_def] at member
      split at member
      · cases member
      · exact (Option.some.inj member).symm
  case h_2 result after ends =>
    obtain ⟨calls, ofCalls, course⟩ := Executor.attempt_course ends
    obtain ⟨call, reply, lastCall, -, isText, -⟩ := course.last
    have attempts : result.attempts = calls.length := course.attempts.trans (Nat.zero_add _)
    refine ⟨calls, ?_, .inr ?_⟩
    · rw [whole, ends]
      exact ofCalls
    · rw [lastCall]
      cases outcome : result.outcome with
      | ok rows =>
          simp only [ExecutionResult.toFailure?, ExecutionResult.failure?, outcome,
            Option.map_none] at executed
          subst executed responded
          refine ⟨?_, attempts, ?_⟩
          · rintro (⟨_, ⟨⟩⟩ | ⟨_, ⟨⟩⟩)
          · rintro _ ⟨⟩
            exact congrArg some isText
      | error failure =>
          simp only [ExecutionResult.toFailure?, ExecutionResult.failure?, outcome,
            Option.map_some] at executed
          subst executed responded
          refine ⟨?_, attempts, ?_⟩
          · rintro (⟨_, ⟨⟩⟩ | ⟨_, ⟨⟩⟩)
          · rintro _ ⟨⟩
            exact congrArg some isText

/-- **What a response tells.**

The response to any question is a success exactly when it has data and no error, and its data counts
the results.  It tells the number of the calls that were made for the question, and the text of the
last one, exactly when execution was not stopped after a call: a response to a question that was
cancelled or timed out tells of no attempt, and of the text of the first call. -/
theorem answer_tells_iff (session : Session) (store : RecordStore State) (question : String)
    (world after : World State) (response : Response)
    (answered : session.answer store question world = some (response, after)) :
    ∃ calls, after.calls = world.calls ++ calls ∧
      Response.IsCoherent response.json ∧
      (Response.Tells response.json calls ↔ (response.IsStopped → calls = [])) ∧
      (response.IsStopped → response.attempts = 0 ∧
        ∀ call ∈ calls.head?, response.queryExecuted = some call.text) := by
  rcases answer_cases answered with ⟨trace, failure, attempts, rfl, idle⟩ |
    ⟨detected, routed, plan, took, start, progress, -, spent, executed, responded, rfl⟩
  · refine ⟨[], by rw [idle.calls, List.append_nil], Response.isCoherent_json _, ?_, ?_⟩
    · rw [Response.tells_json_iff]
      exact ⟨fun _ _ => rfl, fun _ => ⟨attempts, nofun⟩⟩
    · intro _
      exact ⟨attempts, nofun⟩
  · obtain ⟨calls, ofCalls, told⟩ := session.execute_tells store _ plan start executed responded
    have before := ((session.idle_begun world).trans (World.idle_of_spend spent)).calls
    refine ⟨calls, by rw [(idle_worldAfter progress).calls, ofCalls, before],
      Response.isCoherent_json _, ?_, ?_⟩
    · rcases told with ⟨stopped, attempts, executed, -⟩ | ⟨notStopped, attempts, last⟩
      · refine ⟨fun tells _ => tells.calls_eq_nil attempts, ?_⟩
        intro none
        obtain rfl := none stopped
        exact (Response.tells_json_iff response []).2 ⟨attempts, nofun⟩
      · exact ⟨fun _ stopped => absurd stopped notStopped,
          fun _ => (Response.tells_json_iff response calls).2 ⟨attempts, last⟩⟩
    · intro stopped
      rcases told with ⟨-, attempts, executed, isFirst⟩ | ⟨notStopped, -⟩
      · refine ⟨attempts, fun call member => executed.trans ?_⟩
        rw [isFirst call member, Plan.text_call]
        rfl
      · exact absurd stopped notStopped

/-- A world whose store misses the table of items and then finds a customer. -/
def mistakenWorld : World (List Reply) where
  store :=
    [{ outcome := .error (RecordStore.missingTable "tabItem") },
      { outcome := .ok [[("name", .string "C-1")]] }]

/-- A world whose store misses the table of items, and takes longer than the deadline allows to
answer again. -/
def slowWorld : World (List Reply) where
  store :=
    [{ outcome := .error (RecordStore.missingTable "tabItem") },
      { outcome := .ok [], took := 100000 }]

/-- The response to a question whose query is attempted twice tells of both attempts. -/
theorem answer_tells_iff_mistaken :
    ∃ response after, itemQuerySession.answer .scripted "customers" mistakenWorld =
        some (response, after) ∧
      after.calls.map Call.text =
        ["SELECT name FROM `tabItem`", "SELECT name FROM `tabCustomer`"] ∧
      response.attempts = 2 ∧
      response.queryExecuted = some "SELECT name FROM `tabCustomer`" := by
  have ends : (itemQuerySession.answer .scripted "customers" mistakenWorld).map
      (fun ended => (ended.1.succeeded, ended.2.calls.map Call.text)) =
        some (true, ["SELECT name FROM `tabItem`", "SELECT name FROM `tabCustomer`"]) := by
    decide +kernel
  obtain ⟨⟨response, after⟩, answered, same⟩ := Option.map_eq_some_iff.1 ends
  obtain ⟨succeeded, texts⟩ := Prod.mk.inj same
  obtain ⟨calls, ofCalls, -, tells, -⟩ := answer_tells_iff _ _ _ _ _ _ answered
  have goesOn : ¬ response.IsStopped := by
    rintro (⟨attempt, outcome⟩ | ⟨limit, outcome⟩) <;>
      · rw [Response.succeeded, outcome] at succeeded
        cases succeeded
  obtain ⟨attempts, last⟩ := (Response.tells_json_iff response calls).1
    (tells.2 fun stopped => absurd stopped goesOn)
  rw [ofCalls] at texts
  replace texts : calls.map Call.text =
      ["SELECT name FROM `tabItem`", "SELECT name FROM `tabCustomer`"] := texts
  refine ⟨response, after, answered, ofCalls ▸ texts, ?_, ?_⟩
  · rw [attempts, ← List.length_map Call.text, texts]
    rfl
  · have lastText : calls.getLast?.map Call.text = some "SELECT name FROM `tabCustomer`" := by
      rw [← List.getLast?_map, texts]
      rfl
    obtain ⟨call, isLast, isText⟩ := Option.map_eq_some_iff.1 lastText
    rw [last call isLast, isText]

/-- Stopped after a call, a response tells of no attempt, and not of the text of the last call. -/
theorem not_tells_of_stopped :
    (∃ response after, itemQuerySession.answer .scripted "customers" interruptedWorld =
        some (response, after) ∧
      after.calls.map Call.text = ["SELECT name FROM `tabItem`"] ∧ response.attempts = 0 ∧
      ¬ Response.Tells response.json after.calls) ∧
    ∃ response after, itemQuerySession.answer .scripted "customers" slowWorld =
        some (response, after) ∧
      after.calls.map Call.text =
        ["SELECT name FROM `tabItem`", "SELECT name FROM `tabCustomer`"] ∧
      response.attempts = 0 ∧ response.queryExecuted = some "SELECT name FROM `tabItem`" ∧
      ¬ Response.Tells response.json after.calls := by
  have interrupted : (itemQuerySession.answer .scripted "customers" interruptedWorld).map
      (fun ended => (ended.2.calls.map Call.text, ended.1.attempts)) =
        some (["SELECT name FROM `tabItem`"], 0) := by
    decide +kernel
  have slow : (itemQuerySession.answer .scripted "customers" slowWorld).map
      (fun ended => (ended.2.calls.map Call.text, ended.1.attempts, ended.1.queryExecuted)) =
        some (["SELECT name FROM `tabItem`", "SELECT name FROM `tabCustomer`"], 0,
          some "SELECT name FROM `tabItem`") := by
    decide +kernel
  obtain ⟨⟨response, after⟩, answered, same⟩ := Option.map_eq_some_iff.1 interrupted
  obtain ⟨⟨later, last⟩, answeredLater, sameLater⟩ := Option.map_eq_some_iff.1 slow
  obtain ⟨texts, attempts⟩ := Prod.mk.inj same
  obtain ⟨textsLater, attemptsLater, executed⟩ := by simpa only [Prod.mk.injEq] using sameLater
  refine ⟨⟨response, after, answered, texts, attempts, fun tells => ?_⟩,
    later, last, answeredLater, textsLater, attemptsLater, executed, fun tells => ?_⟩
  · rw [tells.calls_eq_nil attempts] at texts
    cases texts
  · rw [tells.calls_eq_nil attemptsLater] at textsLater
    cases textsLater

end Session

end Inquiry
