import Inquiry.Proofs.Lowering
import Inquiry.Proofs.Repair

/-!
# Plurals

Entities are detected by their names and by these with an s behind, and so they
are asked for.  An identifier that means no entity is therefore looked up once
more without the ending of a plural.  Two endings are tried, first "es" and then
"s".  What is left is a piece of a key and is looked up as a text, so a key should
be its own key (`keyOf_keyOf`); and it is, since lower case has no lower case
(`lowerSymbol_of_mem`).

The plural of a name that ends in an e can be read in both ways.  Without "es" it
may be the name of another entity, which is tried first: where there are plans and
planes, the planes are taken for plans.  This is the only exception
(`repair?_plural_iff`).
-/

set_option autoImplicit false

namespace Inquiry.Text

/-! ## Lower case of lower case -/

/-- A run moves its code points to none that another one moves: to outside of the other, or in
between its steps. -/
def CaseRun.isApart (run other : CaseRun) : Bool :=
  Nat.blt (run.last + run.shift).toNat other.first ||
    Nat.blt other.last (run.first + run.shift).toNat ||
    ((run.step == 2 || run.first == run.last) && other.step == 2 &&
      (run.first + run.shift - other.first) % 2 == 1)

theorem CaseRun.not_moves_of_isApart {run other : CaseRun} (apart : run.isApart other = true)
    {code moved : Nat} (moves : run.Moves code) (isMoved : (moved : Int) = code + run.shift) :
    ¬ other.Moves moved := by
  rintro ⟨low, high, onStep⟩
  obtain ⟨runLow, runHigh, runOnStep⟩ := moves
  simp only [isApart, Bool.or_eq_true, Bool.and_eq_true, beq_iff_eq, Nat.blt_eq] at apart
  rcases apart with (below | above) | ⟨⟨single, isTwo⟩, isOdd⟩
  · omega
  · omega
  · rw [isTwo] at onStep
    rcases single with alsoTwo | single
    · rw [alsoTwo] at runOnStep
      omega
    · omega

/-- A code point on its own. -/
def CaseRun.single (code : Nat) : CaseRun := ⟨code, code, 1, 0⟩

/-- The code points that lower case changes: those of the runs, and the dotted I. -/
def movedRuns : List CaseRun := .single 0x130 :: lowerRuns.toList

/-- The signs that keys do not see. -/
def hiddenSigns : List CaseRun := [.single '_'.toNat, .single '-'.toNat]

/-- Code points that bound runs: none begins before the first, none ends behind the second. -/
def runBounds (runs : List CaseRun) : Nat × Nat :=
  runs.foldr (fun run bound => (min run.first bound.1, max run.last bound.2)) (0x110000, 0)

theorem within_runBounds {runs : List CaseRun} {run : CaseRun} (member : run ∈ runs) :
    (runBounds runs).1 ≤ run.first ∧ run.last ≤ (runBounds runs).2 := by
  induction runs with
  | nil => cases member
  | cons first rest ih =>
      rcases List.mem_cons.1 member with rfl | inRest
      · exact ⟨Nat.min_le_left .., Nat.le_max_left ..⟩
      · obtain ⟨low, high⟩ := ih inRest
        exact ⟨(Nat.min_le_right ..).trans low, high.trans (Nat.le_max_right ..)⟩

/-- A run moves its code points out of the bounds of all runs, or else each half of the runs is
looked at by itself, down to the given depth. -/
def CaseRun.isApartFrom (run : CaseRun) : (depth : Nat) → List CaseRun → Bool
  | 0, runs => runs.all run.isApart
  | depth + 1, runs =>
      Nat.blt (run.last + run.shift).toNat (runBounds runs).1 ||
        Nat.blt (runBounds runs).2 (run.first + run.shift).toNat ||
        (run.isApartFrom depth (runs.take (runs.length / 2)) &&
          run.isApartFrom depth (runs.drop (runs.length / 2)))

theorem CaseRun.isApart_of_isApartFrom {run other : CaseRun} {depth : Nat} {runs : List CaseRun}
    (apart : run.isApartFrom depth runs = true) (member : other ∈ runs) :
    run.isApart other = true := by
  induction depth generalizing runs with
  | zero => exact List.all_eq_true.1 apart other member
  | succ depth ih =>
      simp only [isApartFrom, Bool.or_eq_true, Bool.and_eq_true, Nat.blt_eq] at apart
      obtain ⟨low, high⟩ := within_runBounds member
      rcases apart with (below | above) | ⟨front, back⟩
      · simp [isApart, below.trans_le low]
      · simp [isApart, high.trans_lt above]
      · rw [← List.take_append_drop (runs.length / 2) runs, List.mem_append] at member
        exact member.elim (ih front) (ih back)

/-- Lower case has no lower case, and is none of the signs that keys do not see. -/
theorem isApart_of_mem_lowerRuns {run other : CaseRun} (member : run ∈ lowerRuns)
    (otherMember : other ∈ movedRuns ++ hiddenSigns) : run.isApart other = true := by
  -- There are too many pairs of runs to look at each one.
  have checked :
      lowerRuns.toList.all (fun run => run.isApartFrom 5 (movedRuns ++ hiddenSigns)) = true := by
    decide +kernel
  exact CaseRun.isApart_of_isApartFrom
    (List.all_eq_true.1 checked run (Array.mem_toList_iff.2 member)) otherMember

/-- What no run moves is its own lower case. -/
theorem lowerSymbol_eq_self {symbol : Char} (still : ∀ run ∈ movedRuns, ¬ run.Moves symbol.toNat) :
    lowerSymbol symbol = [symbol] := by
  obtain ⟨notDotted, stillInRuns⟩ := List.forall_mem_cons.1 still
  rw [lowerSymbol]
  split
  case isTrue isSmall =>
    have checked : ∀ code < 128, ¬ (0x41 ≤ code ∧ code ≤ 0x5a) →
        (Char.ofNat code).toLower = Char.ofNat code := by
      decide
    have same := checked _ isSmall fun inLatin =>
      stillInRuns _ (Array.mem_toList_iff.2 mem_lowerRuns_latin)
        ⟨inLatin.1, inLatin.2, Nat.mod_one _⟩
    rw [Char.ofNat_toNat] at same
    rw [same]
  case isFalse =>
    rw [if_neg fun isDotted => notDotted ⟨isDotted.ge, isDotted.le, Nat.mod_one _⟩]
    split
    case h_1 => rfl
    case h_2 run found =>
      obtain ⟨isRun, low, high⟩ := of_findRun found
      exact if_neg fun onStep => stillInRuns run (Array.mem_toList_iff.2 isRun) ⟨low, high, onStep⟩

/-- **Lower case is its own lower case.** -/
theorem lowerSymbol_of_mem {symbol lowered : Char} (member : lowered ∈ lowerSymbol symbol) :
    lowerSymbol lowered = [lowered] := by
  rcases of_mem_lowerSymbol member with ⟨rfl, same⟩ | isDotted | ⟨run, isRun, moves, isMoved⟩
  · exact same
  · simp only [List.mem_cons, List.not_mem_nil, or_false] at isDotted
    rcases isDotted with rfl | rfl <;> decide +kernel
  · exact lowerSymbol_eq_self fun other otherMember => CaseRun.not_moves_of_isApart
      (isApart_of_mem_lowerRuns isRun (List.mem_append_left _ otherMember)) moves isMoved

end Inquiry.Text

namespace Inquiry

open Inquiry.Text

/-! ## Keys of keys -/

/-- What keys see, they see in lower case. -/
theorem countsInKey_of_mem_lowerSymbol {symbol lowered : Char} (counts : countsInKey symbol = true)
    (member : lowered ∈ lowerSymbol symbol) : countsInKey lowered = true := by
  have notBlank : isBlank lowered = false := by
    refine notBlank_lowerSymbol ?_ lowered member
    simp only [countsInKey, Bool.and_eq_true, Bool.not_eq_true'] at counts
    exact counts.1.1
  rcases of_mem_lowerSymbol member with ⟨rfl, -⟩ | isDotted | ⟨run, isRun, moves, isMoved⟩
  · exact counts
  · simp only [List.mem_cons, List.not_mem_nil, or_false] at isDotted
    rcases isDotted with rfl | rfl <;> rfl
  · have notSign : ∀ sign : Char, .single sign.toNat ∈ hiddenSigns → lowered ≠ sign := by
      rintro _ isSign rfl
      exact CaseRun.not_moves_of_isApart
        (isApart_of_mem_lowerRuns isRun (List.mem_append_right _ isSign)) moves isMoved
        ⟨le_rfl, le_rfl, Nat.mod_one _⟩
    simp [countsInKey, notBlank, notSign '_' (List.mem_cons_self ..),
      notSign '-' (List.mem_cons_of_mem _ (List.mem_cons_self ..))]

/-- The characters of a key count in keys and are their own lower case. -/
theorem of_mem_keyOf {text : List Char} {symbol : Char} (member : symbol ∈ keyOf text) :
    countsInKey symbol = true ∧ lowerSymbol symbol = [symbol] := by
  obtain ⟨given, isGiven, lowered⟩ := List.mem_flatMap.1 member
  obtain ⟨-, counts⟩ := List.mem_filter.1 isGiven
  exact ⟨countsInKey_of_mem_lowerSymbol counts lowered, lowerSymbol_of_mem lowered⟩

/-- **A key is its own key.** -/
theorem keyOf_keyOf (text : List Char) : keyOf (keyOf text) = keyOf text := by
  have isSame (key : List Char)
      (each : ∀ symbol ∈ key, countsInKey symbol = true ∧ lowerSymbol symbol = [symbol]) :
      keyOf key = key := by
    rw [keyOf, List.filter_eq_self.2 fun symbol member => (each symbol member).1, lowerEach,
      List.flatMap_congr fun symbol member => (each symbol member).2]
    exact List.flatMap_singleton' key
  exact isSame _ fun symbol => of_mem_keyOf

end Inquiry

namespace Inquiry.Correction

/-! ## Plurals -/

theorem withoutEnding?_eq_some_iff {ending text short : List Char} :
    withoutEnding? ending text = some short ↔ short ++ ending = text := by
  rw [withoutEnding?, Option.map_eq_some_iff]
  constructor
  · rintro ⟨rest, cut, rfl⟩
    rw [List.isPrefixOf?_eq_some_iff_append_eq] at cut
    rw [← List.reverse_inj, List.reverse_append, List.reverse_reverse, cut]
  · rintro rfl
    refine ⟨short.reverse, ?_, List.reverse_reverse short⟩
    rw [List.isPrefixOf?_eq_some_iff_append_eq, List.reverse_append]

variable {catalog : Catalog} {entity other : Entity}

/-- What takes the plural of an entity for its own: one whose key has an e less at its end. -/
def Captures (other entity : Entity) : Prop := other.key ≠ [] ∧ entity.key = other.key ++ ['e']

instance (other entity : Entity) : Decidable (Captures other entity) :=
  inferInstanceAs (Decidable (_ ∧ _))

/-- What the plural of an entity means without "es". -/
def capturing? (catalog : Catalog) (entity : Entity) : Option Entity :=
  (withoutEnding? ['e', 's'] (entity.key ++ ['s'])).bind catalog.resolve?

theorem capturing?_eq_some_iff :
    capturing? catalog entity = some other ↔
      other ∈ catalog.entities ∧ Captures other entity := by
  rw [capturing?, Option.bind_eq_some_iff]
  constructor
  · rintro ⟨short, cut, found⟩
    obtain ⟨member, isKey, notEmpty⟩ := Catalog.of_resolve? found
    have ending : short ++ ['e'] = entity.key := by
      have whole := withoutEnding?_eq_some_iff.1 cut
      exact List.append_cancel_right ((List.append_assoc ..).trans whole)
    have isShort : keyOf short = short := by
      have same := keyOf_keyOf entity.name.toList
      rw [show keyOf entity.name.toList = short ++ ['e'] from ending.symm, keyOf_append] at same
      exact List.append_cancel_right same
    rw [isShort] at isKey notEmpty
    exact ⟨member, isKey ▸ notEmpty, by rw [isKey, ending]⟩
  · rintro ⟨member, notEmpty, ending⟩
    refine ⟨other.key, withoutEnding?_eq_some_iff.2 ?_, ?_⟩
    · rw [ending, List.append_assoc]
      rfl
    · exact Catalog.resolve?_of_mem member (keyOf_keyOf _) notEmpty

/-- The plural of an entity means what captures it, and else the entity. -/
theorem singular?_plural (member : entity ∈ catalog.entities) (notEmpty : entity.key ≠ []) :
    singular? catalog (entity.key ++ ['s']) =
      (capturing? catalog entity).or (some entity) := by
  have withoutS : withoutEnding? ['s'] (entity.key ++ ['s']) = some entity.key :=
    withoutEnding?_eq_some_iff.2 rfl
  have means := Catalog.resolve?_of_mem member (keyOf_keyOf entity.name.toList) notEmpty
  rw [singular?, pluralEndings, List.findSome?_cons, List.findSome?_cons, withoutS,
    Option.bind_some, show catalog.resolve? entity.key = some entity from means, capturing?]
  cases (withoutEnding? ['e', 's'] (entity.key ++ ['s'])).bind catalog.resolve? <;> rfl

/-- **An unknown plural is corrected to the singular, unless an e less names another entity.**

Let an identifier mean nothing in the catalog and read as the name of an entity with an s behind
it.  It is repaired to that entity exactly when no entity has the key of this one less an e at the
end.  If there is one, the plural is taken for that entity's name with "es" behind it, and is
repaired to it.  This holds for every threshold of likeness. -/
theorem repair?_plural_iff (settings : CorrectionSettings) (catalog : Catalog) (entity : Entity)
    (identifier : List Char) (member : entity ∈ catalog.entities) (notEmpty : entity.key ≠ [])
    (isPlural : keyOf identifier = keyOf (entity.name.toList ++ ['s']))
    (unknown : catalog.resolve? identifier = none) :
    (repair? settings catalog identifier = some entity ↔
      ∀ other ∈ catalog.entities, ¬ Captures other entity) ∧
    ∀ other ∈ catalog.entities, Captures other entity →
      repair? settings catalog identifier = some other := by
  have isKey : keyOf identifier = entity.key ++ ['s'] := isPlural.trans (keyOf_append ..)
  have repaired : repair? settings catalog identifier =
      (capturing? catalog entity).or (some entity) := by
    rw [repair?, unknown]
    simp only [isKey, singular?_plural member notEmpty]
    cases capturing? catalog entity <;> rfl
  have captured : ∀ other ∈ catalog.entities, Captures other entity →
      repair? settings catalog identifier = some other := by
    intro other otherMember captures
    rw [repaired, capturing?_eq_some_iff.2 ⟨otherMember, captures⟩]
    rfl
  refine ⟨⟨fun isEntity other otherMember captures => ?_, fun free => ?_⟩, captured⟩
  · obtain rfl := Option.some.inj (isEntity.symm.trans (captured other otherMember captures))
    exact List.cons_ne_nil _ _ (List.self_eq_append_right.1 captures.2)
  · rw [repaired]
    cases found : capturing? catalog entity with
    | none => rfl
    | some other =>
        obtain ⟨otherMember, captures⟩ := capturing?_eq_some_iff.1 found
        exact absurd captures (free other otherMember)

/-- Two record types, one named by the other with an e behind. -/
def plansAndPlanes : Catalog where
  entities := [{ name := "Plan", fields := [] }, { name := "Plane", fields := [] }]
  ordered := by decide +kernel
  distinct := by decide +kernel
  named := by decide +kernel

/-- Plans are corrected to the plan, however they are written. -/
theorem repair?_plural_plans :
    plansAndPlanes.resolve? "PLANS".toList = none ∧
      repair? {} plansAndPlanes "PLANS".toList = some { name := "Plan", fields := [] } := by
  have unknown : plansAndPlanes.resolve? "PLANS".toList = none := by decide +kernel
  obtain ⟨isPlan, -⟩ := repair?_plural_iff {} plansAndPlanes { name := "Plan", fields := [] }
    "PLANS".toList (List.mem_cons_self ..) (by decide) (by decide) unknown
  exact ⟨unknown, isPlan.2 (by decide +kernel)⟩

/-- Planes are corrected to the plan, although they are no entity and the plane is one. -/
theorem repair?_plural_planes :
    { name := "Plane", fields := [] } ∈ plansAndPlanes.entities ∧
      identifierKey "Plane" = "plane".toList ∧
      plansAndPlanes.resolve? "Planes".toList = none ∧
      ∀ settings, repair? settings plansAndPlanes "Planes".toList =
        some { name := "Plan", fields := [] } := by
  have unknown : plansAndPlanes.resolve? "Planes".toList = none := by decide +kernel
  have taken : singular? plansAndPlanes (keyOf "Planes".toList) =
      some { name := "Plan", fields := [] } := by
    decide +kernel
  refine ⟨by decide +kernel, by decide, unknown, ?_⟩
  intro settings
  rw [repair?, unknown]
  simp only [taken, Option.some_or]

end Inquiry.Correction
