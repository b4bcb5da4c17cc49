import Mathlib.Data.List.Forall2

/-!
# Stages that succeed

Plans pass through stages that give a result or a fault, and stages are put one
after the other.  A chain of stages succeeds when each of its stages does, each
with what the one before gave.  The lemmas say so for every way of putting
stages together, so that success can be taken apart, and put together again,
without looking into the stages.
-/

set_option autoImplicit false

namespace Inquiry

variable {Fault Fault' Item Value Result : Type}

/-- Two stages succeed when the first one does, and the second one on what it gives. -/
theorem bind_eq_ok_iff {first : Except Fault Value} {next : Value → Except Fault Result}
    {result : Result} :
    first >>= next = .ok result ↔ ∃ value, first = .ok value ∧ next value = .ok result := by
  cases first with
  | error fault => exact iff_of_false nofun (by rintro ⟨value, done, -⟩; cases done)
  | ok value => simp [bind, Except.bind]

@[simp] theorem throw_ne_ok {fault : Fault} {result : Result} :
    (throw fault : Except Fault Result) ≠ .ok result := nofun

theorem pure_eq_ok_iff {value result : Result} :
    (pure value : Except Fault Result) = .ok result ↔ result = value :=
  Except.ok.injEq value result ▸ eq_comm

theorem map_eq_ok_iff {change : Value → Result} {first : Except Fault Value} {result : Result} :
    change <$> first = .ok result ↔ ∃ value, first = .ok value ∧ result = change value := by
  rw [map_eq_pure_bind, bind_eq_ok_iff]
  exact exists_congr fun value => and_congr_right fun _ => pure_eq_ok_iff

/-- A stage without a result and a second stage succeed when both do. -/
theorem then_eq_ok_iff {first : Except Fault Unit} {next : Except Fault Result}
    {result : Result} :
    (first >>= fun _ => next) = .ok result ↔ first = .ok () ∧ next = .ok result :=
  bind_eq_ok_iff.trans ⟨fun ⟨_, both⟩ => both, fun both => ⟨(), both⟩⟩

/-- A stage whose faults are worded succeeds when the stage does. -/
theorem eq_ok_of_mapError_eq_ok {outcome : Except Fault Value} {word : Fault → Fault'}
    {value : Value} (done : outcome.mapError word = .ok value) : outcome = .ok value := by
  cases outcome with
  | error fault => cases done
  | ok other =>
      cases done
      rfl

theorem exists_eq_ok_of_isOk {outcome : Except Fault Value} (isOk : outcome.isOk = true) :
    ∃ value, outcome = .ok value := by
  cases outcome with
  | error fault => cases isOk
  | ok value => exact ⟨value, rfl⟩

/-! ## Lists of items -/

/-- A stage for every item of a list succeeds with the results for the items in turn. -/
theorem mapM_eq_ok_iff {stage : Item → Except Fault Result} {items : List Item}
    {results : List Result} :
    items.mapM stage = .ok results ↔
      List.Forall₂ (fun item result => stage item = .ok result) items results := by
  induction items generalizing results with
  | nil =>
      rw [List.mapM_nil, List.forall₂_nil_left_iff]
      exact ⟨fun same => (Except.ok.inj same).symm, fun same => same ▸ rfl⟩
  | cons item rest ih =>
      rw [List.mapM_cons, List.forall₂_cons_left_iff, bind_eq_ok_iff]
      apply exists_congr
      intro result
      rw [bind_eq_ok_iff]
      constructor
      · rintro ⟨ofItem, others, ofRest, same⟩
        exact ⟨others, ofItem, ih.1 ofRest, (Except.ok.inj same).symm⟩
      · rintro ⟨others, ofItem, ofRest, rfl⟩
        exact ⟨ofItem, others, ih.2 ofRest, rfl⟩

/-- A stage that succeeds for each item of a list succeeds for the list. -/
theorem exists_mapM_eq_ok {stage : Item → Except Fault Result} {items : List Item}
    (each : ∀ item ∈ items, ∃ result, stage item = .ok result) :
    ∃ results, items.mapM stage = .ok results := by
  induction items with
  | nil => exact ⟨[], rfl⟩
  | cons item rest ih =>
      obtain ⟨result, ofItem⟩ := each item (List.mem_cons_self ..)
      obtain ⟨results, ofRest⟩ := ih fun later member => each later (List.mem_cons_of_mem _ member)
      exact ⟨result :: results, mapM_eq_ok_iff.2 (.cons ofItem (mapM_eq_ok_iff.1 ofRest))⟩

end Inquiry
