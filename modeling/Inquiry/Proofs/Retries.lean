import Inquiry.Proofs.Attempts
import Inquiry.Proofs.Retargeting

/-!
# What retries send

Every call of an execution is recorded, whether the execution ends with a result
or is stopped.  For a query the calls are codes: the first one is that of the
query, and each other one is the code before it with some references pointed at
the entity detected first (`attempt_codes`).

The first code was checked and the others were not.  A retry can write code with
a reference that means nothing: it may close a backtick that stood open in front
of the word table, and what lies between is then read as a name
(`execute_of_open_backtick`).  Where the references stay in place whatever the
store complains about, the tables of every code resolve, because one retry keeps
what the next one needs.  For plain names it is decided retry by retry
(`execute_codes_resolve`).
-/

set_option autoImplicit false

namespace Inquiry.Executor

open Inquiry.Code

variable {State : Type}

/-! ## The calls of a run -/

/-- Code is the one before it with some references pointed at the entity detected first, after a
complaint about a table; `table` is the table, and `target` is the entity. -/
structure Retargets (executor : Executor State) (target : Entity) (table : Option (List Char))
    (code next : String) : Prop where
  first : first? executor.catalog executor.detected = some target
  writes : next.toList = written (pointed? target table) (parts executor.catalog code.toList)

/-- The plan that is attempted after a query is a query with other code. -/
theorem exists_retargets_of_nextPlan? {executor : Executor State} {given : GeneratedQuery}
    {next : Plan} {error : StoreError}
    (known : Correction.Known executor.catalog executor.detected)
    (again : executor.nextPlan? (.query given) error = some next) :
    ∃ other, next = .query other ∧
      ∃ target table, executor.Retargets target table given.code other.code := by
  simp only [nextPlan?] at again
  split at again
  case h_1 isQuery =>
    cases isQuery
    obtain ⟨other, redirected, rfl⟩ := Option.map_eq_some_iff.1 again
    obtain ⟨target, isFirst, writes⟩ := of_redirected? known redirected
    exact ⟨other, rfl, target, _, isFirst, writes⟩
  · cases again

/-- **The calls of a run for a query are codes, each made from the one before**; the first one is
that of the query, and there is one unless execution is cancelled. -/
theorem attempt_codes {executor : Executor State}
    (known : Correction.Known executor.catalog executor.detected) (left made : Nat)
    (states : List ExecutionState) (given : GeneratedQuery) (world : World State) :
    ∃ codes : List String,
      (executor.attempt left made states (.query given) world).2.calls =
        world.calls ++ codes.map Call.query ∧
      codes.head? = (if world.isCancelled then none else some given.code) ∧
      codes.IsChain fun code next => ∃ target table, executor.Retargets target table code next := by
  induction left using Nat.strongRecOn generalizing made states given world with
  | ind left ih =>
    by_cases cancelled : world.isCancelled = true
    · refine ⟨[], ?_, (if_pos cancelled).symm, .nil⟩
      rw [attempt_of_isCancelled executor left made states (.query given) cancelled, List.map_nil,
        List.append_nil]
    · rw [if_neg cancelled]
      rcases executor.attempt_step left made states (.query given) cancelled with
        ⟨later, called, -, isLast⟩ | ⟨later, called, -, isLast⟩ |
          ⟨fewer, next, later, rfl, ⟨error, -, again⟩, -, called, goesOn⟩
      · exact ⟨[given.code], isLast ▸ called.calls, rfl, List.isChain_singleton _⟩
      · exact ⟨[given.code], isLast ▸ called.calls, rfl, List.isChain_singleton _⟩
      · obtain ⟨other, rfl, retargets⟩ := exists_retargets_of_nextPlan? known again
        obtain ⟨codes, calls, isFirst, chain⟩ := ih fewer (Nat.lt_succ_self fewer) (made + 1)
          (states ++ [.executing, .retrying]) other later
        refine ⟨given.code :: codes, ?_, rfl, List.isChain_cons.2 ⟨?_, chain⟩⟩
        · rw [goesOn, calls, called.calls, List.map_cons, List.append_assoc]
          rfl
        · intro first inCodes
          rw [isFirst, Option.mem_def, Option.ite_none_left_eq_some] at inCodes
          rw [← Option.some.inj inCodes.2]
          exact retargets

/-! ## The tables of what is sent -/

/-- **When the tables of everything that is sent for an accepted query resolve.**

The query was checked, and its code is sent first, so the tables of the first code resolve.  Those
of all others do where the entity detected first has a key and no backtick in its name, and
references can be pointed at it whatever the store complains about.  For plain names they do exactly
where no retry closes an open backtick with harm. -/
theorem execute_codes_resolve (executor : Executor State) (parser : Sql.Parser)
    (given : GeneratedQuery) (world : World State)
    (known : Correction.Known executor.catalog executor.detected)
    (accepted : Check.query parser executor.catalog given = .ok ()) :
    ∃ codes : List String,
      (executor.execute (.query given) world).2.calls = world.calls ++ codes.map Call.query ∧
      codes.head? = (if world.isCancelled then none else some given.code) ∧
      TablesResolve executor.catalog given.code.toList ∧
      ((∀ target, first? executor.catalog executor.detected = some target →
          target.key ≠ [] ∧ '`' ∉ target.name.toList ∧
            Sturdy executor.catalog target given.code.toList) →
        ∀ code ∈ codes, TablesResolve executor.catalog code.toList) ∧
      (executor.catalog.IsPlain →
        ((∀ code ∈ codes, TablesResolve executor.catalog code.toList) ↔
          codes.IsChain fun code next => ∃ target table,
            executor.Retargets target table code next ∧
              Tame (pointed? target table) executor.catalog
                (parts executor.catalog code.toList))) := by
  obtain ⟨codes, calls, isFirst, chain⟩ :=
    attempt_codes known (attemptsAllowed executor.settings - 1) 0 [.pending] given world
  have firstResolves := tablesResolve_of_accepted accepted
  have isCode : ∀ anySent : codes ≠ [], codes.head anySent = given.code := by
    intro anySent
    rw [List.head?_eq_some_head anySent, eq_comm, Option.ite_none_left_eq_some] at isFirst
    exact (Option.some.inj isFirst.2).symm
  refine ⟨codes, calls, isFirst, firstResolves, ?_, fun plain => ⟨?_, ?_⟩⟩
  · intro safe
    have kept : ∀ code ∈ codes, TablesResolve executor.catalog code.toList ∧
        ∀ target, first? executor.catalog executor.detected = some target →
          Sturdy executor.catalog target code.toList := by
      refine chain.induction _ _ ?_ ?_
      · rintro code next ⟨target, table, isFirst, writes⟩ ⟨resolve, sturdy⟩
        obtain ⟨hasKey, noTick, -⟩ := safe target isFirst
        have accepted := (tablesResolve_iff.1 resolve).2
        rw [writes]
        have sturdyHere := sturdy target isFirst
        refine ⟨sturdyHere.tablesResolve (mem_of_first? isFirst) hasKey noTick resolve table, ?_⟩
        intro other isOther
        obtain rfl := Option.some.inj (isFirst.symm.trans isOther)
        exact ((sturdy target isFirst).pointed noTick accepted table).2
      · intro anySent
        rw [isCode anySent]
        exact ⟨firstResolves, fun target isFirst => (safe target isFirst).2.2⟩
    intro code member
    exact (kept code member).1
  · intro resolve
    apply chain.imp_of_mem_imp
    intro code next inCodes nextInCodes
    rintro ⟨target, table, retargets⟩
    refine ⟨target, table, retargets, ?_⟩
    rw [← tablesResolve_pointed_iff plain (mem_of_first? retargets.first) (resolve code inCodes),
      ← retargets.writes]
    exact resolve next nextInCodes
  · intro tame
    refine tame.induction _ _ ?_ fun anySent => isCode anySent ▸ firstResolves
    rintro code next ⟨target, table, retargets, harmless⟩ resolve
    rw [retargets.writes,
      tablesResolve_pointed_iff plain (mem_of_first? retargets.first) resolve table]
    exact harmless

/-- An executor that knows customers and items, and whose question was about customers. -/
def customerExecutor : Executor (List Reply) where
  store := .scripted
  catalog :=
    { entities := [{ name := "Customer", fields := [] }, { name := "Item", fields := [] }]
      ordered := by decide +kernel
      distinct := by decide +kernel
      named := by decide +kernel }
  settings := { backoff := 1 }
  detected := [⟨"Customer", .one, true, "customers"⟩]

/-- A world whose store misses the table of items and then finds nothing. -/
def itemlessWorld : World (List Reply) where
  store := [{ outcome := .error (RecordStore.missingTable "tabItem") }, { outcome := .ok [] }]

theorem known_customerExecutor :
    Correction.Known customerExecutor.catalog customerExecutor.detected := by
  intro entity member
  obtain rfl := List.mem_singleton.1 member
  rfl

/-- What is sent by the executor about customers for a query. -/
theorem sent_eq {given : GeneratedQuery} {codes texts : List String}
    (calls : (customerExecutor.execute (.query given) itemlessWorld).2.calls =
      itemlessWorld.calls ++ codes.map Call.query)
    (sent : (customerExecutor.execute (.query given) itemlessWorld).2.calls.map Call.text =
      texts) : codes = texts := by
  have nothing : itemlessWorld.calls = [] := rfl
  rw [calls, nothing, List.nil_append, List.map_map] at sent
  exact (List.map_id codes).symm.trans sent

/-- The query of items is sent again for customers, and the tables of both codes resolve. -/
theorem execute_codes_resolve_bareQuery :
    Check.query .byRules customerExecutor.catalog Correction.bareQuery = .ok () ∧
      (customerExecutor.execute (.query Correction.bareQuery) itemlessWorld).2.calls =
        ["SELECT name FROM tabItem", "SELECT name FROM `tabCustomer`"].map Call.query ∧
      ∀ code ∈ ["SELECT name FROM tabItem", "SELECT name FROM `tabCustomer`"],
        TablesResolve customerExecutor.catalog code.toList := by
  obtain ⟨passed, accepted⟩ := exists_eq_ok_of_isOk
    (show (Check.query .byRules customerExecutor.catalog Correction.bareQuery).isOk = true by
      decide +kernel)
  have plain : customerExecutor.catalog.IsPlain := by
    have checked : ∀ entity ∈ customerExecutor.catalog.entities,
        entity.key ≠ [] ∧ entity.shortName.all isBareSymbol = true := by
      decide +kernel
    intro entity member
    exact (checked entity member).imp id List.all_eq_true.1
  have unmarked : ∀ mark, isMark mark = true →
      Part.kept [mark] ∉ parts customerExecutor.catalog Correction.bareQuery.code.toList := by
    intro mark marked
    rcases isMark_iff.1 marked with rfl | rfl <;> decide +kernel
  obtain ⟨codes, calls, -, firstResolves, resolve, -⟩ := execute_codes_resolve customerExecutor
    .byRules Correction.bareQuery itemlessWorld known_customerExecutor accepted
  have sent := sent_eq calls (show _ = ["SELECT name FROM tabItem",
    "SELECT name FROM `tabCustomer`"] by decide +kernel)
  rw [sent] at calls resolve
  refine ⟨accepted, calls, resolve ?_⟩
  intro target isFirst
  have member := mem_of_first? isFirst
  refine ⟨(plain target member).1, ?_,
    sturdy_of_notMem plain member (tablesResolve_iff.1 firstResolves).2 unmarked⟩
  exact Catalog.IsPlain.noTick plain target member

/-- The query with the open backtick is accepted and sent again for customers, and what is sent
then has a reference that means no entity. -/
theorem execute_of_open_backtick :
    Correction.Known customerExecutor.catalog customerExecutor.detected ∧
      Check.query .byRules customerExecutor.catalog Correction.openQuery = .ok () ∧
      ∃ code, Call.query code ∈
          (customerExecutor.execute (.query Correction.openQuery) itemlessWorld).2.calls ∧
        ∃ reference ∈ scan customerExecutor.catalog code.toList,
          reference.entity? customerExecutor.catalog = none := by
  obtain ⟨passed, accepted⟩ := exists_eq_ok_of_isOk
    (show (Check.query .byRules customerExecutor.catalog Correction.openQuery).isOk = true by
      decide +kernel)
  obtain ⟨codes, calls, -⟩ := attempt_codes known_customerExecutor
    (attemptsAllowed customerExecutor.settings - 1) 0 [.pending] Correction.openQuery itemlessWorld
  have sent := sent_eq calls (show _ = ["SELECT `table FROM tabItem",
    "SELECT `table FROM `tabCustomer`"] by decide +kernel)
  refine ⟨known_customerExecutor, accepted, "SELECT `table FROM `tabCustomer`", ?_, ?_⟩
  · rw [sent] at calls
    rw [execute, calls]
    exact List.mem_append_right _ (List.mem_cons_of_mem _ (List.mem_cons_self ..))
  · decide +kernel

end Inquiry.Executor
