import Inquiry.Correction
import Mathlib.Data.List.Nodup
import Mathlib.Data.List.TakeWhile

/-!
# What repair leads to

A repaired reference is written as the table of an entity, and the name in
that table is the name of the entity without its blanks.  This file follows
such a name back to the entity.  The key of the name is the key of the entity
(`keyOf_shortName`), keys are distinct in a catalog, so the name means the
entity again (`Catalog.resolve?_of_mem`).

One kind of entity escapes this: the name "-" has an empty key, and an empty
key means nothing.  Such a name can only be found again by likeness, and it is,
or nothing is: among entities with distinct keys no other key is as much like
the empty one as the empty one itself (`similar?_nil`).  So repairing what
repair has led to changes nothing, whatever the threshold is
(`repair?_shortName`).
-/

set_option autoImplicit false

namespace Inquiry

open Inquiry.Text

/-- Picking from a list, where each item is taken or passed by, leads to an item or to what there
was before. -/
theorem mem_of_foldl_pick {Item : Type} {pick : Option Item → Item → Option Item}
    (picks : ∀ best item, pick best item = best ∨ pick best item = some item)
    {items : List Item} {best : Option Item} {found : Item}
    (last : items.foldl pick best = some found) : best = some found ∨ found ∈ items := by
  induction items generalizing best with
  | nil => exact .inl last
  | cons item rest ih =>
      rcases ih last with same | member
      · rcases picks best item with passed | taken
        · exact .inl (passed ▸ same)
        · exact .inr (Option.some.inj (taken.symm.trans same) ▸ List.mem_cons_self ..)
      · exact .inr (List.mem_cons_of_mem _ member)

/-! ## Keys and names -/

/-- The name of an entity as it stands in the name of its table: without blanks. -/
def Entity.shortName (entity : Entity) : List Char := withoutBlanks entity.name.toList

theorem keyOf_withoutBlanks (text : List Char) : keyOf (withoutBlanks text) = keyOf text := by
  have same : (withoutBlanks text).filter countsInKey = text.filter countsInKey := by
    rw [withoutBlanks, List.filter_filter]
    apply List.filter_congr
    intro symbol _
    cases blank : isBlank symbol <;> simp [countsInKey, blank]
  rw [keyOf, keyOf, same]

theorem keyOf_shortName (entity : Entity) : keyOf entity.shortName = entity.key :=
  keyOf_withoutBlanks _

theorem trim_withoutBlanks (text : List Char) : trim (withoutBlanks text) = withoutBlanks text := by
  have kept : ∀ symbol ∈ withoutBlanks text, isBlank symbol = false := by
    intro symbol member
    simpa using (List.mem_filter.1 member).2
  have fromStart : ∀ text : List Char, (∀ symbol ∈ text, isBlank symbol = false) →
      text.dropWhile isBlank = text := by
    intro text kept
    cases text with
    | nil => rfl
    | cons symbol rest => exact List.dropWhile_cons_of_neg (by simp [kept symbol])
  rw [trim, trimWhere, trimStartWhere, fromStart _ kept, trimEndWhere,
    fromStart _ fun symbol member => kept symbol (List.mem_reverse.1 member), List.reverse_reverse]

theorem Catalog.shortName_ne_nil {catalog : Catalog} {entity : Entity}
    (member : entity ∈ catalog.entities) : entity.shortName ≠ [] := by
  intro isEmpty
  obtain ⟨notEmpty, isTrimmed⟩ := catalog.named entity member
  have blanks : ∀ symbol ∈ entity.name.toList, isBlank symbol = true := by
    intro symbol member
    simpa using List.filter_eq_nil_iff.1 isEmpty symbol member
  have dropped : trim entity.name.toList = [] := by
    rw [trim, trimWhere, trimStartWhere, List.dropWhile_eq_nil_iff.2 blanks]
    rfl
  rw [trimmed, dropped] at isTrimmed
  exact notEmpty isTrimmed.symm

/-! ## Looking up -/

namespace Catalog

variable {catalog : Catalog}

theorem eq_of_key_eq {entity other : Entity} (member : entity ∈ catalog.entities)
    (otherMember : other ∈ catalog.entities) (same : entity.key = other.key) : entity = other := by
  have apart : (catalog.entities.map Entity.key).Nodup := List.pairwise_map.2 catalog.distinct
  exact List.inj_on_of_nodup_map apart member otherMember same

/-- What an identifier means is an entity of the catalog with the key of the identifier. -/
theorem of_resolve? {identifier : List Char} {entity : Entity}
    (found : catalog.resolve? identifier = some entity) :
    entity ∈ catalog.entities ∧ entity.key = keyOf identifier ∧ keyOf identifier ≠ [] := by
  simp only [resolve?] at found
  split at found
  · cases found
  case isFalse notEmpty =>
    have sameKey := List.find?_some found
    exact ⟨List.mem_of_find?_eq_some found, by simpa using sameKey, by simpa using notEmpty⟩

/-- An identifier with the key of an entity of the catalog means the entity. -/
theorem resolve?_of_mem {identifier : List Char} {entity : Entity}
    (member : entity ∈ catalog.entities) (same : keyOf identifier = entity.key)
    (notEmpty : entity.key ≠ []) : catalog.resolve? identifier = some entity := by
  have found : ∃ other, catalog.resolve? identifier = some other := by
    rw [resolve?, same, if_neg (by simpa using notEmpty)]
    apply Option.isSome_iff_exists.1
    rw [withKey?, List.find?_isSome]
    exact ⟨entity, member, by simp⟩
  obtain ⟨other, found⟩ := found
  obtain ⟨otherMember, otherKey, -⟩ := of_resolve? found
  rw [found, eq_of_key_eq otherMember member (otherKey.trans same)]

theorem of_get? {name : String} {entity : Entity} (found : catalog.get? name = some entity) :
    entity ∈ catalog.entities ∧ entity.name = name :=
  ⟨List.mem_of_find?_eq_some found, by simpa using List.find?_some found⟩

end Catalog

/-! ## Likeness to the empty key -/

namespace Correction

/-- The empty text is like itself, and a likeness of zero is not raised. -/
theorem jaroWinkler_nil_nil : jaroWinkler [] [] = .one ∧ raisedAbove.less .zero = false := by
  decide +kernel

theorem jaroWinkler_nil_cons (symbol : Char) (rest : List Char) :
    jaroWinkler [] (symbol :: rest) = .zero := by
  have unlike : jaro [] (symbol :: rest) = .zero := rfl
  rw [jaroWinkler, unlike]
  exact if_neg (Bool.eq_false_iff.1 jaroWinkler_nil_nil.2)

/-- Zero and one are numbers, and stand in this order. -/
theorem zero_one_ordered :
    (Double.zero.isNaN = false ∧ Double.zero.valueKey = 0) ∧
      (Double.one.isNaN = false ∧ 0 ≤ Double.one.valueKey) ∧
      Double.zero.totalKey < Double.one.totalKey := by
  decide +kernel

theorem zero_less_of_one_less {threshold : Double} (less : Double.one.less threshold = true) :
    Double.zero.less threshold = true := by
  obtain ⟨zero, one, -⟩ := zero_one_ordered
  simp only [Double.less, Bool.and_eq_true, Bool.not_eq_true', decide_eq_true_eq] at less ⊢
  exact ⟨⟨zero.1, less.1.2⟩, by omega⟩

/-- An entity found by likeness is one of the entities compared. -/
theorem mem_of_foldl_better {threshold : Double} {likenesses : List Likeness}
    {best : Option Likeness} {found : Likeness}
    (last : likenesses.foldl (Likeness.better threshold) best = some found) :
    best = some found ∨ found ∈ likenesses := by
  refine mem_of_foldl_pick (fun best other => ?_) last
  simp only [Likeness.better]
  split
  · exact .inl rfl
  · split
    · exact .inr rfl
    · split
      · exact .inr rfl
      · exact .inl rfl

/-- What is not like the key at all does not replace what is fully like it. -/
theorem foldl_better_of_one {threshold : Double} {rest : List Likeness} {entity : Entity}
    (unlike : ∀ other ∈ rest, other.score = .zero) :
    rest.foldl (Likeness.better threshold) (some ⟨.one, entity⟩) = some ⟨.one, entity⟩ := by
  induction rest with
  | nil => rfl
  | cons other rest ih =>
      have isZero := unlike other (List.mem_cons_self ..)
      have notBetter : Likeness.better threshold (some ⟨.one, entity⟩) other =
          some ⟨.one, entity⟩ := by
        have ordered := zero_one_ordered.2.2
        simp [Likeness.better, Likeness.improves, isZero, Int.not_lt.2 (Int.le_of_lt ordered),
          Int.ne_of_gt ordered]
      rw [List.foldl_cons, notBetter]
      exact ih fun later member => unlike later (List.mem_cons_of_mem _ member)

theorem foldl_better_of_less {threshold : Double} {rest : List Likeness}
    (below : ∀ other ∈ rest, other.score.less threshold = true) :
    rest.foldl (Likeness.better threshold) none = none := by
  induction rest with
  | nil => rfl
  | cons other rest ih =>
      rw [List.foldl_cons, Likeness.better, if_pos (below other (List.mem_cons_self ..))]
      exact ih fun later member => below later (List.mem_cons_of_mem _ member)

/-- What is fully like the key replaces what is not like it at all. -/
theorem better_of_zero {threshold : Double} {best : Option Likeness} {entity : Entity}
    (unlike : ∀ other, best = some other → other.score = .zero)
    (passes : Double.one.less threshold = false) :
    Likeness.better threshold best ⟨.one, entity⟩ = some ⟨.one, entity⟩ := by
  cases best with
  | none => simp [Likeness.better, passes]
  | some other =>
      simp [Likeness.better, Likeness.improves, passes, unlike other rfl, zero_one_ordered.2.2]

/-- How much an entity is like the empty key. -/
def likenessToNothing (entity : Entity) : Likeness := ⟨jaroWinkler [] entity.key, entity⟩

theorem score_likenessToNothing {entities : List Entity}
    (notEmpty : ∀ entity ∈ entities, entity.key ≠ []) :
    ∀ likeness ∈ entities.map likenessToNothing, likeness.score = .zero := by
  intro likeness member
  obtain ⟨entity, inside, rfl⟩ := List.mem_map.1 member
  obtain ⟨symbol, rest, same⟩ := List.exists_cons_of_ne_nil (notEmpty entity inside)
  simp only [likenessToNothing, same, jaroWinkler_nil_cons]

/-- Among the entities of a catalog only the one with the empty key is most like it. -/
theorem similar?_nil (threshold : Double) {catalog : Catalog} {entity : Entity}
    (member : entity ∈ catalog.entities) (isEmpty : entity.key = []) :
    similar? threshold catalog [] = some entity ∨ similar? threshold catalog [] = none := by
  obtain ⟨front, back, cut⟩ := List.append_of_mem member
  have distinct := catalog.distinct
  rw [cut, List.pairwise_append, List.pairwise_cons] at distinct
  obtain ⟨-, ⟨ofBack, -⟩, ofFront⟩ := distinct
  have frontZero := @score_likenessToNothing front fun other member same =>
    ofFront other member entity (List.mem_cons_self ..) (same.trans isEmpty.symm)
  have backZero := @score_likenessToNothing back fun other member same =>
    ofBack other member (isEmpty.trans same.symm)
  have whole : similar? threshold catalog [] =
      ((catalog.entities.map likenessToNothing).foldl (Likeness.better threshold) none).map
        (·.entity) := rfl
  have full : likenessToNothing entity = ⟨.one, entity⟩ := by
    rw [likenessToNothing, isEmpty, jaroWinkler_nil_nil.1]
  rw [whole, cut, List.map_append, List.map_cons, List.foldl_append, List.foldl_cons, full]
  generalize front.map likenessToNothing = front at frontZero ⊢
  generalize back.map likenessToNothing = back at backZero ⊢
  cases passes : Double.one.less threshold with
  | true =>
      have below := zero_less_of_one_less passes
      have noFront := foldl_better_of_less fun other member => frontZero other member ▸ below
      have noBack := foldl_better_of_less fun other member => backZero other member ▸ below
      have notIt : Likeness.better threshold none ⟨.one, entity⟩ = none := if_pos passes
      right
      rw [noFront, notIt, noBack, Option.map_none]
  | false =>
      left
      rw [better_of_zero _ passes, foldl_better_of_one backZero, Option.map_some]
      intro other last
      rcases mem_of_foldl_better last with none | member
      · cases none
      · exact frontZero other member

/-! ## Repair -/

variable {settings : CorrectionSettings} {catalog : Catalog}

/-- A repaired identifier leads to an entity of the catalog. -/
theorem mem_of_repair? {identifier : List Char} {entity : Entity}
    (repaired : repair? settings catalog identifier = some entity) :
    entity ∈ catalog.entities := by
  rw [repair?] at repaired
  split at repaired
  case h_1 meant found =>
    cases repaired
    exact (Catalog.of_resolve? found).1
  case h_2 =>
    rcases Option.or_eq_some_iff.1 repaired with singular | ⟨-, similar⟩
    · obtain ⟨ending, -, found⟩ := List.exists_of_findSome?_eq_some singular
      obtain ⟨short, -, found⟩ := Option.bind_eq_some_iff.1 found
      exact (Catalog.of_resolve? found).1
    · obtain ⟨likeness, found, rfl⟩ := Option.map_eq_some_iff.1 similar
      rcases mem_of_foldl_better found with none | member
      · cases none
      · obtain ⟨other, otherMember, rfl⟩ := List.mem_map.1 member
        exact otherMember

/-- **Repairing the short name of an entity changes nothing**: it leads to the entity, or to none
if the key of the entity is empty. -/
theorem repair?_shortName {entity : Entity} (member : entity ∈ catalog.entities) :
    repair? settings catalog entity.shortName = some entity ∨
      repair? settings catalog entity.shortName = none := by
  by_cases isEmpty : entity.key = []
  · have none : catalog.resolve? entity.shortName = none := by
      rw [Catalog.resolve?, keyOf_shortName, isEmpty]
      rfl
    have byLikeness : repair? settings catalog entity.shortName =
        similar? settings.fuzzyThreshold catalog [] := by
      rw [repair?, none, keyOf_shortName, isEmpty]
      rfl
    rw [byLikeness]
    exact similar?_nil settings.fuzzyThreshold member isEmpty
  · rw [repair?, Catalog.resolve?_of_mem member (keyOf_shortName entity) isEmpty]
    exact .inl rfl

end Correction

end Inquiry
