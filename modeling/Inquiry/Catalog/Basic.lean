import Inquiry.Catalog.Entity

/-!
# Catalogs

A catalog holds the entities that questions can be about, in the order of
their names.  No two of them share a key, so a text names at most one of them;
and every name is trimmed and not empty.  `Catalog.ofEntities` builds a
catalog from a list, or says what is wrong with the list.
-/

set_option autoImplicit false

namespace Inquiry

/-- What can be wrong with the entities of a catalog. -/
inductive CatalogFault where
  /-- The text of a catalog file is not one. -/
  | unreadable
  /-- An entity has a blank name. -/
  | emptyName
  /-- Two entities share a key. -/
  | collision (name existing : String)
deriving DecidableEq

/-- The wording of a catalog fault. -/
def CatalogFault.message : CatalogFault → String
  | .unreadable => "Failed to parse catalog"
  | .emptyName => "Entity with an empty name"
  | .collision name existing =>
      "Entity '" ++ name ++ "' collides with '" ++ existing ++ "' (both map to table '" ++
        tableNameOf name ++ "')"

/-- The entities that questions can be about. -/
structure Catalog where
  entities : List Entity
  ordered : entities.Pairwise (fun first second => first.name < second.name)
  distinct : entities.Pairwise (fun first second => first.key ≠ second.key)
  named : ∀ entity ∈ entities, entity.name ≠ "" ∧ Text.trimmed entity.name = entity.name

namespace Catalog

/-! ## Building -/

/-- The catalog without entities. -/
def empty : Catalog := ⟨[], .nil, .nil, by simp⟩

/-- The catalog of one entity. -/
def alone (entity : Entity)
    (isNamed : entity.name ≠ "" ∧ Text.trimmed entity.name = entity.name) : Catalog where
  entities := [entity]
  ordered := List.pairwise_singleton _ _
  distinct := List.pairwise_singleton _ _
  named := fun _ member => List.mem_singleton.1 member ▸ isNamed

/-- An entity put before the first one with a greater name. -/
def place (entity : Entity) : List Entity → List Entity
  | [] => [entity]
  | other :: rest =>
      if entity.name < other.name then entity :: other :: rest else other :: place entity rest

/-- Placing an entity adds it and nothing else. -/
theorem perm_place (entity : Entity) (entities : List Entity) :
    (place entity entities).Perm (entity :: entities) := by
  induction entities with
  | nil => exact .refl _
  | cons other rest ih =>
      rw [place]
      split
      · exact .refl _
      · exact (ih.cons other).trans (.swap entity other rest)

/-- Placing an entity with a new name keeps the order of names. -/
theorem pairwise_place {entity : Entity} {entities : List Entity}
    (isNew : ∀ other ∈ entities, other.name ≠ entity.name)
    (ordered : entities.Pairwise (fun first second => first.name < second.name)) :
    (place entity entities).Pairwise (fun first second => first.name < second.name) := by
  induction entities with
  | nil => exact List.pairwise_singleton _ _
  | cons other rest ih =>
      rw [List.pairwise_cons] at ordered
      rw [place]
      split
      case isTrue below =>
        refine List.pairwise_cons.2 ⟨fun later member => ?_, List.pairwise_cons.2 ordered⟩
        rcases List.mem_cons.1 member with rfl | member
        · exact below
        · exact String.lt_trans below (ordered.1 later member)
      case isFalse notBelow =>
        refine List.pairwise_cons.2 ⟨fun later member => ?_, ih
          (fun candidate member => isNew candidate (List.mem_cons_of_mem _ member)) ordered.2⟩
        rcases List.mem_cons.1 ((perm_place entity rest).mem_iff.1 member) with rfl | member
        · rcases Decidable.em (other.name < later.name) with below | notAbove
          · exact below
          · exact absurd (String.le_antisymm (String.not_lt.1 notBelow) (String.not_lt.1 notAbove))
              (isNew other (List.mem_cons_self ..))
        · exact ordered.1 later member

/-- The entity of a list whose key equals the given one. -/
def withKey? (key : List Char) (entities : List Entity) : Option Entity :=
  entities.find? (fun entity => entity.key = key)

/-- The catalog with one more entity, whose name is trimmed and whose key is new. -/
def insert (catalog : Catalog) (entity : Entity)
    (isNamed : entity.name ≠ "" ∧ Text.trimmed entity.name = entity.name)
    (isNew : withKey? entity.key catalog.entities = none) : Catalog where
  entities := place entity catalog.entities
  ordered := by
    refine pairwise_place (fun other member same => ?_) catalog.ordered
    have differs := List.find?_eq_none.1 isNew other member
    simp [Entity.key, same] at differs
  distinct := by
    refine (perm_place entity catalog.entities).symm.pairwise
      (List.pairwise_cons.2 ⟨fun other member same => ?_, catalog.distinct⟩)
      (fun first => first.symm)
    have differs := List.find?_eq_none.1 isNew other member
    simp [same] at differs
  named := by
    intro other member
    rcases List.mem_cons.1 ((perm_place entity catalog.entities).mem_iff.1 member) with rfl | member
    · exact isNamed
    · exact catalog.named other member

/-- The catalog with one more entity, whose name is trimmed first. -/
def add (catalog : Catalog) (entity : Entity) : Except CatalogFault Catalog :=
  if isBlank : entity.trimmed.name = "" then .error .emptyName
  else
    match isNew : withKey? entity.trimmed.key catalog.entities with
    | none => .ok (catalog.insert entity.trimmed ⟨isBlank, entity.trimmed_name_trimmed⟩ isNew)
    | some existing => .error (.collision entity.trimmed.name existing.name)

/-- The catalog of a list of entities; the first entity that cannot be added is the fault. -/
def ofEntities (entities : List Entity) : Except CatalogFault Catalog :=
  entities.foldlM add empty

/-! ## Looking up -/

/-- How many entities there are. -/
def size (catalog : Catalog) : Nat := catalog.entities.length

/-- The names of the entities, in order. -/
def names (catalog : Catalog) : List String := catalog.entities.map (·.name)

/-- The entity with exactly this name. -/
def get? (catalog : Catalog) (name : String) : Option Entity :=
  catalog.entities.find? (fun entity => entity.name = name)

/-- Whether there is an entity with exactly this name. -/
def contains (catalog : Catalog) (name : String) : Bool := (catalog.get? name).isSome

/-- The entity that an identifier means: the one with its key.  An empty key means none. -/
def resolve? (catalog : Catalog) (identifier : List Char) : Option Entity :=
  let key := keyOf identifier
  if key.isEmpty then none else withKey? key catalog.entities

/-- The entity whose name is the text, else the one that the text means. -/
def entity? (catalog : Catalog) (text : String) : Option Entity :=
  match catalog.get? text with
  | some entity => some entity
  | none => catalog.resolve? text.toList

/-- An identifier without the mark of tables, if it begins with it. -/
def withoutMark (text : List Char) : List Char :=
  (tableMark.isPrefixOf? text).getD text

/-- The entity that a table name means, with or without quotes and mark. -/
def resolveTable? (catalog : Catalog) (table : String) : Option Entity :=
  let bare := Text.trimWhere (· = '"') (Text.trimWhere (· = '`') (Text.trim table.toList))
  catalog.resolve? (withoutMark bare)

end Catalog

end Inquiry
