import Inquiry.Text.Ranges
import Mathlib.Algebra.Ring.Nat

/-!
# Looking characters up

A table of ranges is halved until a range has the code point or nothing of the
table is left.  Each step throws one side of the middle away, and this loses
nothing because the ranges are in order: a code point below a range lies in none
behind it, and one above a range in none in front of it (`HasAt.index_lt`,
`HasAt.lt_index`).  By induction on the steps the search within a stretch of the
table finds what is there (`holdsWithin_iff`), so a character has the property
of a table exactly when one of its ranges has the character (`holds_iff`).
-/

set_option autoImplicit false

namespace Inquiry.Text.Ranges

/-! ## Ranges in order -/

theorem le_of_isOrdered {ranges : List (Nat × Nat)} (ordered : isOrdered ranges = true) :
    ∀ range ∈ ranges, range.1 ≤ range.2 := by
  induction ranges with
  | nil => exact nofun
  | cons range rest ih =>
      cases rest with
      | nil => simpa [isOrdered] using ordered
      | cons next rest =>
          simp only [isOrdered, Bool.and_eq_true, decide_eq_true_eq] at ordered
          exact List.forall_mem_cons.2 ⟨ordered.1.1, ih ordered.2⟩

/-- Of two ranges the one in front ends before the other begins. -/
theorem pairwise_of_isOrdered {ranges : List (Nat × Nat)} (ordered : isOrdered ranges = true) :
    ranges.Pairwise fun before after => before.2 < after.1 := by
  induction ranges with
  | nil => exact .nil
  | cons range rest ih =>
      cases rest with
      | nil => exact List.pairwise_singleton _ _
      | cons next rest =>
          simp only [isOrdered, Bool.and_eq_true, decide_eq_true_eq] at ordered
          have ofRest := ih ordered.2
          refine .cons ?_ ofRest
          intro other member
          rcases List.mem_cons.1 member with rfl | later
          · exact ordered.1.2
          · have nonempty := le_of_isOrdered ordered.2 next (List.mem_cons_self ..)
            have apart := List.rel_of_pairwise_cons ofRest later
            omega

variable {table : Ranges} {code index other : Nat} {range : Nat × Nat}

theorem le_of_getElem? (there : table.entries[index]? = some range) : range.1 ≤ range.2 := by
  rw [← Array.getElem?_toList] at there
  exact le_of_isOrdered table.ordered range (List.mem_of_getElem? there)

theorem lt_of_getElem? {later : Nat × Nat} (there : table.entries[index]? = some range)
    (thereLater : table.entries[other]? = some later) (before : index < other) :
    range.2 < later.1 := by
  rw [← Array.getElem?_toList] at there thereLater
  obtain ⟨within, rfl⟩ := List.getElem?_eq_some_iff.1 there
  obtain ⟨withinLater, rfl⟩ := List.getElem?_eq_some_iff.1 thereLater
  exact List.pairwise_iff_getElem.1 (pairwise_of_isOrdered table.ordered) _ _ _ _ before

/-! ## Where a code point lies -/

/-- A code point lies in the range with some index. -/
def HasAt (table : Ranges) (code index : Nat) : Prop :=
  ∃ range, table.entries[index]? = some range ∧ range.1 ≤ code ∧ code ≤ range.2

/-- A code point below a range lies in none behind it. -/
theorem HasAt.index_lt (has : table.HasAt code index) (there : table.entries[other]? = some range)
    (below : code < range.1) : index < other := by
  obtain ⟨own, here, first, last⟩ := has
  apply Nat.lt_of_not_le
  intro notBefore
  have nonempty := le_of_getElem? there
  rcases Nat.lt_or_eq_of_le notBefore with before | rfl
  · have apart := lt_of_getElem? there here before
    omega
  · obtain rfl := Option.some.inj (there.symm.trans here)
    omega

/-- A code point above a range lies in none in front of it. -/
theorem HasAt.lt_index (has : table.HasAt code index) (there : table.entries[other]? = some range)
    (above : range.2 < code) : other < index := by
  obtain ⟨own, here, first, last⟩ := has
  apply Nat.lt_of_not_le
  intro notAfter
  have nonempty := le_of_getElem? there
  rcases Nat.lt_or_eq_of_le notAfter with before | rfl
  · have apart := lt_of_getElem? here there before
    omega
  · obtain rfl := Option.some.inj (there.symm.trans here)
    omega

/-! ## Halving -/

/-- Within a stretch of the table that the steps are enough for, a code point is found exactly when
a range there has it. -/
theorem holdsWithin_iff {steps low high : Nat} (within : high ≤ table.entries.size)
    (enough : high - low < 2 ^ steps) :
    table.holdsWithin code steps low high = true ↔
      ∃ index, low ≤ index ∧ index < high ∧ table.HasAt code index := by
  induction steps generalizing low high with
  | zero =>
      apply iff_of_false nofun
      rintro ⟨index, above, below, -⟩
      omega
  | succ steps ih =>
      rw [Nat.pow_succ] at enough
      simp only [holdsWithin]
      split
      case isTrue none =>
        apply iff_of_false nofun
        rintro ⟨index, above, below, -⟩
        omega
      case isFalse notNone =>
        have inside : (low + high) / 2 < table.entries.size := by omega
        obtain ⟨range, there⟩ : ∃ range, table.entries[(low + high) / 2]? = some range :=
          ⟨_, Array.getElem?_eq_getElem inside⟩
        simp only [there]
        split
        case isTrue below =>
          rw [ih (by omega) (by omega)]
          constructor
          · rintro ⟨index, fromLow, toMiddle, has⟩
            exact ⟨index, fromLow, by omega, has⟩
          · rintro ⟨index, fromLow, -, has⟩
            exact ⟨index, fromLow, has.index_lt there below, has⟩
        case isFalse notBelow =>
          split
          case isTrue above =>
            rw [ih (by omega) (by omega)]
            constructor
            · rintro ⟨index, fromMiddle, toHigh, has⟩
              exact ⟨index, by omega, toHigh, has⟩
            · rintro ⟨index, -, toHigh, has⟩
              exact ⟨index, has.lt_index there above, toHigh, has⟩
          case isFalse notAbove =>
            refine iff_of_true rfl ⟨(low + high) / 2, by omega, by omega, range, there, ?_, ?_⟩
            · exact Nat.le_of_not_lt notBelow
            · exact Nat.le_of_not_lt notAbove

/-- **A character is found exactly when one of the ranges has it.** -/
theorem holds_iff (table : Ranges) (symbol : Char) :
    table.holds symbol = true ↔
      ∃ range ∈ table.entries.toList, range.1 ≤ symbol.toNat ∧ symbol.toNat ≤ range.2 := by
  have enough : table.entries.size - 0 < 2 ^ (table.entries.size.log2 + 2) := by
    have small : table.entries.size < 2 ^ (table.entries.size.log2 + 1) := Nat.lt_log2_self
    rw [Nat.pow_succ]
    omega
  rw [holds, holdsWithin_iff (Nat.le_refl _) enough]
  constructor
  · rintro ⟨index, -, -, range, there, has⟩
    rw [← Array.getElem?_toList] at there
    exact ⟨range, List.mem_of_getElem? there, has⟩
  · rintro ⟨range, member, has⟩
    obtain ⟨index, within, there⟩ := List.getElem_of_mem member
    refine ⟨index, Nat.zero_le _, within, range, ?_, has⟩
    rw [← Array.getElem?_toList]
    exact List.getElem?_eq_some_iff.2 ⟨within, there⟩

end Inquiry.Text.Ranges
