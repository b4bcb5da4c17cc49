import Inquiry.Proofs.Closing
import Inquiry.Proofs.Repair

/-!
# What correction writes

A correction replaces the table of every reference that an entity can be found
for (`target?`), by the table of that entity.  So it renames the parts of the
code (`query_eq_ok_iff`), and a second correction renames the parts that
the corrected code is read into.  Where the references stayed in place these
are the renamed parts, and renaming them once more changes nothing
(`newCode_of_inPlace`).
-/

set_option autoImplicit false

namespace Inquiry

open Inquiry.Code

/-- The code of a plan; an operation has none. -/
def Plan.code : Plan → List Char
  | .operation _ => []
  | .query given => given.code.toList

namespace Correction

variable {settings : CorrectionSettings} {catalog : Catalog} {detected : List Detected}

/-- The entity that a reference is made to mean: the one detected first if the reference is empty,
and otherwise the one that its identifier most plausibly means. -/
def target? (settings : CorrectionSettings) (catalog : Catalog) (detected : List Detected)
    (mention : Mention) : Option Entity :=
  if mention.isEmpty then detected.head?.bind fun first => catalog.get? first.entityName
  else repair? settings catalog mention.identifier

/-- The name that is written for a mention. -/
def newName? (settings : CorrectionSettings) (catalog : Catalog) (detected : List Detected)
    (mention : Mention) : Option (List Char) :=
  (target? settings catalog detected mention).map Entity.shortName

/-- The entities detected are entities of the catalog. -/
def Known (catalog : Catalog) (detected : List Detected) : Prop :=
  ∀ entity ∈ detected, catalog.contains entity.entityName = true

theorem mem_of_target? {mention : Mention} {entity : Entity}
    (found : target? settings catalog detected mention = some entity) :
    entity ∈ catalog.entities := by
  rw [target?] at found
  split at found
  · obtain ⟨first, -, found⟩ := Option.bind_eq_some_iff.1 found
    exact (Catalog.of_get? found).1
  · exact mem_of_repair? found

/-- The table that is put in the place of a reference is that of its target. -/
theorem replacement?_eq (known : Known catalog detected) (reference : Reference) :
    replacement? settings catalog (topTable? catalog detected) reference =
      (newName? settings catalog detected reference.mention).map markedName := by
  rw [replacement?, newName?, target?]
  by_cases isEmpty : reference.isEmpty
  · have isEmptyMention : reference.mention.isEmpty = true := isEmpty
    rw [if_pos isEmpty, if_pos isEmptyMention, topTable?]
    cases detected with
    | nil => rfl
    | cons first rest =>
        obtain ⟨entity, found⟩ := Option.isSome_iff_exists.1 (known first (List.mem_cons_self ..))
        simp only [List.head?_cons, Option.map_some, Option.bind_some, found]
        rfl
  · have notEmptyMention : ¬ reference.mention.isEmpty = true := isEmpty
    rw [if_neg isEmpty, if_neg notEmptyMention, Option.map_map]
    rfl

/-- An empty reference has a target if something was detected. -/
theorem isSome_newName?_of_isEmpty (known : Known catalog detected) {mention : Mention}
    (isEmpty : mention.isEmpty = true) :
    (newName? settings catalog detected mention).isSome = (topTable? catalog detected).isSome := by
  rw [newName?, target?, if_pos isEmpty, topTable?]
  cases detected with
  | nil => rfl
  | cons first rest =>
      obtain ⟨entity, found⟩ := Option.isSome_iff_exists.1 (known first (List.mem_cons_self ..))
      simp [found]

/-! ## Correcting a query -/

/-- The code that a correction writes. -/
def newCode (settings : CorrectionSettings) (catalog : Catalog) (detected : List Detected)
    (code : List Char) : List Char :=
  written (newName? settings catalog detected) (parts catalog code)

/-- No reference is empty without anything to fill it with. -/
theorem find?_unfilled_eq_none_iff (known : Known catalog detected) {code : List Char} :
    (scan catalog code).find? (fun reference =>
        (topTable? catalog detected).isNone && reference.isEmpty) = none ↔
      Filled (newName? settings catalog detected) (parts catalog code) := by
  rw [List.find?_eq_none]
  constructor
  · intro none mention member isEmpty
    obtain ⟨found, inScan, rfl⟩ := table_mem_parts_iff.1 member
    have missing := none found inScan
    rw [show found.isEmpty = true from isEmpty, Bool.and_true, Bool.not_eq_true,
      Option.isNone_eq_false_iff] at missing
    rw [isSome_newName?_of_isEmpty known isEmpty]
    exact missing
  · intro filled found inScan missing
    rw [Bool.and_eq_true] at missing
    have isSome := filled found.mention (table_mem_parts_iff.2 ⟨found, inScan, rfl⟩) missing.2
    rw [isSome_newName?_of_isEmpty known missing.2] at isSome
    simp [Option.isNone_iff_eq_none.1 missing.1] at isSome

theorem find?_isEmpty_eq_none_iff {code : List Char} :
    (scan catalog code).find? (·.isEmpty) = none ↔
      ∀ mention, .table mention ∈ parts catalog code → mention.isEmpty = false := by
  rw [List.find?_eq_none]
  constructor
  · intro none mention member
    obtain ⟨found, inScan, rfl⟩ := table_mem_parts_iff.1 member
    exact Bool.eq_false_iff.2 (none found inScan)
  · intro noneEmpty found inScan isEmpty
    have notEmpty := noneEmpty found.mention (table_mem_parts_iff.2 ⟨found, inScan, rfl⟩)
    rw [show found.mention.isEmpty = true from isEmpty] at notEmpty
    cases notEmpty

/-- A query is corrected when every empty reference can be filled and none is left; its references
are then renamed. -/
theorem query_eq_ok_iff (known : Known catalog detected) {given corrected : GeneratedQuery} :
    query settings catalog detected given = .ok corrected ↔
      Filled (newName? settings catalog detected) (parts catalog given.code.toList) ∧
      (∀ mention, .table mention ∈
          parts catalog (newCode settings catalog detected given.code.toList) →
        mention.isEmpty = false) ∧
      corrected =
        { code := String.ofList (newCode settings catalog detected given.code.toList)
          referencedEntities := referencedEntities catalog
            (newCode settings catalog detected given.code.toList) } := by
  have writes : replaceTables catalog given.code.toList
      (replacement? settings catalog (topTable? catalog detected)) =
        newCode settings catalog detected given.code.toList :=
    replaceTables_eq (replacement?_eq known) catalog _
  rw [← find?_unfilled_eq_none_iff known, ← find?_isEmpty_eq_none_iff]
  simp only [query]
  rw [writes]
  constructor
  · intro done
    split at done
    · cases done
    case h_2 filled =>
      split at done
      · cases done
      case h_2 noneEmpty => exact ⟨filled, noneEmpty, (Except.ok.inj done).symm⟩
  · rintro ⟨filled, noneEmpty, rfl⟩
    rw [filled, noneEmpty]

/-! ## Correcting again -/

theorem isEmpty_shortName {entity : Entity} (member : entity ∈ catalog.entities) :
    (Mention.backtick entity.shortName).isEmpty = false := by
  have notEmpty := Catalog.shortName_ne_nil member
  rw [Mention.isEmpty, Mention.identifier, Entity.shortName, trim_withoutBlanks]
  simpa [Entity.shortName] using notEmpty

/-- The name of a table that was written is written again, or left alone. -/
theorem newName?_shortName {entity : Entity} (member : entity ∈ catalog.entities) :
    newName? settings catalog detected (.backtick entity.shortName) = some entity.shortName ∨
      newName? settings catalog detected (.backtick entity.shortName) = none := by
  rw [newName?, target?, isEmpty_shortName member, if_neg Bool.false_ne_true, Mention.identifier]
  rcases repair?_shortName member with same | none
  · left
    rw [same, Option.map_some]
  · right
    rw [none, Option.map_none]

theorem renamed_renamed (part : Part) :
    (part.renamed (newName? settings catalog detected)).renamed
        (newName? settings catalog detected) =
      part.renamed (newName? settings catalog detected) := by
  cases part with
  | kept characters => rfl
  | table mention =>
      cases found : target? settings catalog detected mention with
      | none => simp [Part.renamed, newName?, found]
      | some entity =>
          have written : Part.renamed (newName? settings catalog detected) (.table mention) =
              .table (.backtick entity.shortName) := by
            simp [Part.renamed, newName?, found]
          rw [written, Part.renamed]
          rcases newName?_shortName (mem_of_target? found) with same | none
          · rw [same]
          · rw [none]

/-- **Where the references stayed in place, a second correction writes the same code.** -/
theorem newCode_of_inPlace {code : List Char}
    (inPlace : InPlace (newName? settings catalog detected) catalog code) :
    newCode settings catalog detected (newCode settings catalog detected code) =
      newCode settings catalog detected code := by
  have again : parts catalog (newCode settings catalog detected code) =
      (parts catalog code).map (Part.renamed (newName? settings catalog detected)) := inPlace
  rw [newCode, again, written, List.map_map]
  have same : Part.renamed (newName? settings catalog detected) ∘
      Part.renamed (newName? settings catalog detected) =
        Part.renamed (newName? settings catalog detected) := funext renamed_renamed
  rw [same]
  rfl

/-- A second correction succeeds and changes nothing exactly where it writes the same code. -/
theorem query_again_iff (known : Known catalog detected) {given corrected : GeneratedQuery}
    (done : query settings catalog detected given = .ok corrected) :
    query settings catalog detected corrected = .ok corrected ↔
      newCode settings catalog detected (newCode settings catalog detected given.code.toList) =
        newCode settings catalog detected given.code.toList := by
  obtain ⟨-, noneEmpty, rfl⟩ := (query_eq_ok_iff known).1 done
  rw [query_eq_ok_iff known, String.toList_ofList]
  constructor
  · rintro ⟨-, -, same⟩
    have sameCode := congrArg (fun query => query.code.toList) same
    simpa using sameCode.symm
  · intro same
    rw [same]
    refine ⟨?_, noneEmpty, rfl⟩
    intro mention member isEmpty
    rw [noneEmpty mention member] at isEmpty
    cases isEmpty

end Correction

/-! ## Plain names -/

/-- Every name of a catalog can be read bare, and none has the empty key. -/
def Catalog.IsPlain (catalog : Catalog) : Prop :=
  ∀ entity ∈ catalog.entities,
    entity.key ≠ [] ∧ ∀ symbol ∈ entity.shortName, isBareSymbol symbol = true

theorem Catalog.IsPlain.noTick {catalog : Catalog} (plain : catalog.IsPlain) :
    ∀ entity ∈ catalog.entities, '`' ∉ entity.name.toList := by
  intro entity member inside
  have bare := (plain entity member).2 '`' (List.mem_filter.2 ⟨inside, rfl⟩)
  cases bare

theorem Catalog.IsPlain.isPlainName {catalog : Catalog} (plain : catalog.IsPlain) {entity : Entity}
    (member : entity ∈ catalog.entities) : IsPlainName catalog entity.shortName := by
  obtain ⟨notEmpty, bare⟩ := plain entity member
  refine ⟨Catalog.shortName_ne_nil member, bare, ?_⟩
  have meant := Catalog.resolve?_of_mem member (keyOf_shortName entity) notEmpty
  obtain ⟨symbol, rest, same⟩ := List.exists_cons_of_ne_nil (Catalog.shortName_ne_nil member)
  rw [same] at meant ⊢
  simp [isTableName, meant]

/-- Of a catalog with plain names, plain names are written. -/
theorem Correction.isPlainName_of_newName? {settings : CorrectionSettings} {catalog : Catalog}
    {detected : List Detected} (plain : catalog.IsPlain) {mention : Mention} {name : List Char}
    (named : newName? settings catalog detected mention = some name) :
    IsPlainName catalog name := by
  obtain ⟨entity, found, rfl⟩ := Option.map_eq_some_iff.1 named
  exact plain.isPlainName (mem_of_target? found)

end Inquiry
