import Inquiry.Proofs.Idempotence
import Inquiry.Proofs.Swallowing
import Mathlib.Data.List.Induction

/-!
# When correction fails

An empty reference is filled with the table of the entity detected first, so
correction fails if a reference is empty and nothing was detected.  It should
not fail otherwise, as whatever it writes has a name.

The corrected code is read once more, though, and a reference that is empty
there makes correction fail as well.  Where the references stay in place there
is none.  But a backtick in front of the mark of tables that is closed by a
table written later swallows what stands between the two, and if these are
blanks, there is an empty reference that nobody wrote.  For plain names this
is the only other way for correction to fail (`correct_fails_iff`).

What a correction that succeeds reports is the list of entities that the
references of its code mean, each at its first mention (`Firsts`).
-/

set_option autoImplicit false

namespace Inquiry

open Inquiry.Code

/-! ## Names in order of first mention -/

/-- The names of a list, each once and in the order in which they come first. -/
structure Firsts (all names : List String) : Prop where
  /-- The same names are there. -/
  mem_iff : ∀ name, name ∈ names ↔ name ∈ all
  /-- A name that stands earlier comes first at an earlier place. -/
  ordered : names.Pairwise fun earlier later => all.idxOf earlier < all.idxOf later

/-- Each name is there once. -/
theorem Firsts.nodup {all names : List String} (firsts : Firsts all names) : names.Nodup :=
  firsts.ordered.imp fun before same => by
    rw [same] at before
    exact Nat.lt_irrefl _ before

/-- A name that comes next is put behind the others unless it is among them. -/
theorem Firsts.concat {all names : List String} (firsts : Firsts all names) (next : String) :
    Firsts (all ++ [next]) (if names.contains next then names else names ++ [next]) := by
  have kept : names.Pairwise fun earlier later =>
      (all ++ [next]).idxOf earlier < (all ++ [next]).idxOf later := by
    refine firsts.ordered.imp_of_mem fun {earlier later} isEarlier isLater before => ?_
    rw [List.idxOf_append_of_mem ((firsts.mem_iff _).1 isEarlier),
      List.idxOf_append_of_mem ((firsts.mem_iff _).1 isLater)]
    exact before
  by_cases known : next ∈ names
  · rw [if_pos (List.contains_iff_mem.2 known)]
    refine ⟨fun name => ?_, kept⟩
    rw [firsts.mem_iff, List.mem_append, List.mem_singleton]
    refine ⟨.inl, ?_⟩
    rintro (isKnown | rfl)
    · exact isKnown
    · exact (firsts.mem_iff _).1 known
  · rw [if_neg (mt List.contains_iff_mem.1 known)]
    refine ⟨fun name => ?_, List.pairwise_append.2 ⟨kept, List.pairwise_singleton .., ?_⟩⟩
    · rw [List.mem_append, List.mem_append, firsts.mem_iff]
    · intro earlier isEarlier later isNext
      obtain rfl := List.mem_singleton.1 isNext
      have inAll := (firsts.mem_iff _).1 isEarlier
      have notInAll := mt (firsts.mem_iff _).2 known
      rw [List.idxOf_append_of_mem inAll, List.idxOf_append_of_notMem notInAll]
      exact Nat.lt_add_right _ (List.idxOf_lt_length_of_mem inAll)

/-- Names collected one after the other, each unless it is there already, are the first ones. -/
theorem firsts_foldl (all : List String) :
    Firsts all (all.foldl
      (fun names next => if names.contains next then names else names ++ [next]) []) := by
  induction all using List.reverseRecOn with
  | nil => exact ⟨fun _ => Iff.rfl, .nil⟩
  | append_singleton all next ih =>
      rw [List.foldl_append, List.foldl_cons, List.foldl_nil]
      exact ih.concat next

namespace Code

/-- The names of the entities that the references of code mean, at each mention. -/
def meantNames (catalog : Catalog) (code : List Char) : List String :=
  ((scan catalog code).filterMap (Reference.entity? catalog)).map (·.name)

/-- A name is meant if a reference means an entity of this name. -/
theorem mem_meantNames_iff {catalog : Catalog} {code : List Char} {name : String} :
    name ∈ meantNames catalog code ↔
      ∃ reference ∈ scan catalog code, ∃ entity, reference.entity? catalog = some entity ∧
        entity.name = name := by
  simp only [meantNames, List.mem_map, List.mem_filterMap]
  constructor
  · rintro ⟨entity, ⟨reference, member, meant⟩, named⟩
    exact ⟨reference, member, entity, meant, named⟩
  · rintro ⟨reference, member, entity, meant, named⟩
    exact ⟨entity, ⟨reference, member, meant⟩, named⟩

/-- The entities that are reported are those that references mean, each at its first mention. -/
theorem firsts_referencedEntities (catalog : Catalog) (code : List Char) :
    Firsts (meantNames catalog code) (referencedEntities catalog code) := by
  have asFold : referencedEntities catalog code = (meantNames catalog code).foldl
      (fun names next => if names.contains next then names else names ++ [next]) [] := by
    rw [meantNames, List.foldl_map]
    rfl
  rw [asFold]
  exact firsts_foldl _

end Code

namespace Correction

variable {settings : CorrectionSettings} {catalog : Catalog} {detected : List Detected}

/-! ## What can be filled -/

/-- A reference of code is empty, and nothing was detected that could fill it. -/
def NothingFills (catalog : Catalog) (detected : List Detected) (code : List Char) : Prop :=
  detected = [] ∧ ∃ reference ∈ scan catalog code, reference.isEmpty = true

/-- All empty references can be filled unless nothing was detected. -/
theorem filled_iff (known : Known catalog detected) {code : List Char} :
    Filled (newName? settings catalog detected) (parts catalog code) ↔
      ¬ NothingFills catalog detected code := by
  have isSome_iff : (topTable? catalog detected).isSome = true ↔ detected ≠ [] := by
    rw [topTable?, Option.isSome_map]
    cases detected <;> simp
  constructor
  · rintro filled ⟨nothing, reference, member, isEmpty⟩
    have named := filled reference.mention (table_mem_parts_iff.2 ⟨reference, member, rfl⟩) isEmpty
    rw [isSome_newName?_of_isEmpty known isEmpty, isSome_iff] at named
    exact named nothing
  · intro fills mention member isEmpty
    obtain ⟨reference, inScan, rfl⟩ := table_mem_parts_iff.1 member
    rw [isSome_newName?_of_isEmpty known isEmpty, isSome_iff]
    intro nothing
    exact fills ⟨nothing, reference, inScan, isEmpty⟩

/-- What is left of filled references when they are renamed has a name. -/
theorem isEmpty_of_mem_renamed {parts : List Part}
    (filled : Filled (newName? settings catalog detected) parts) {mention : Mention}
    (member : mention ∈
      mentionsOf (parts.map (Part.renamed (newName? settings catalog detected)))) :
    mention.isEmpty = false := by
  rw [mentionsOf_map_renamed, List.mem_map] at member
  obtain ⟨proposed, isProposed, rfl⟩ := member
  rw [Mention.renamed]
  cases found : target? settings catalog detected proposed with
  | some entity =>
      have named : newName? settings catalog detected proposed = some entity.shortName := by
        rw [newName?, found, Option.map_some]
      rw [named]
      exact isEmpty_shortName (mem_of_target? found)
  | none =>
      have unnamed : newName? settings catalog detected proposed = none := by
        rw [newName?, found, Option.map_none]
      rw [unnamed]
      by_contra isEmpty
      rw [Bool.not_eq_false] at isEmpty
      have isSome := filled proposed (mem_mentionsOf_iff.1 isProposed) isEmpty
      rw [unnamed] at isSome
      cases isSome

/-! ## Success and failure -/

/-- What is said of the code of a corrected query and of the entities that it reports. -/
structure IsCorrected (catalog : Catalog) (corrected : GeneratedQuery) : Prop where
  /-- Every reference has a name. -/
  notEmpty : ∀ reference ∈ scan catalog corrected.code.toList, reference.isEmpty = false
  /-- The entities are those that the references mean. -/
  mem_iff : ∀ name, name ∈ corrected.referencedEntities ↔
    ∃ reference ∈ scan catalog corrected.code.toList, ∃ entity,
      reference.entity? catalog = some entity ∧ entity.name = name
  /-- Each is there once. -/
  nodup : corrected.referencedEntities.Nodup
  /-- They stand in the order in which the references mean them first. -/
  ordered : corrected.referencedEntities.Pairwise fun earlier later =>
    (meantNames catalog corrected.code.toList).idxOf earlier <
      (meantNames catalog corrected.code.toList).idxOf later

theorem isCorrected_of_query (known : Known catalog detected) {given corrected : GeneratedQuery}
    (done : query settings catalog detected given = .ok corrected) :
    IsCorrected catalog corrected := by
  obtain ⟨-, noneEmpty, rfl⟩ := (query_eq_ok_iff known).1 done
  have firsts := firsts_referencedEntities catalog
    (newCode settings catalog detected given.code.toList)
  constructor
  case notEmpty =>
    intro reference member
    rw [String.toList_ofList] at member
    exact noneEmpty _ (table_mem_parts_iff.2 ⟨reference, member, rfl⟩)
  case mem_iff =>
    intro name
    rw [String.toList_ofList, ← mem_meantNames_iff]
    exact firsts.mem_iff name
  case nodup => exact firsts.nodup
  case ordered =>
    rw [String.toList_ofList]
    exact firsts.ordered

/-- Correction fails when an empty reference cannot be filled, or the new code has an empty one. -/
theorem plan_fails_iff (known : Known catalog detected) {given : GeneratedQuery} :
    (∃ fault, plan settings catalog detected (.query given) = .error fault) ↔
      NothingFills catalog detected given.code.toList ∨
        ∃ mention ∈ mentionsOf
            (parts catalog (newCode settings catalog detected given.code.toList)),
          mention.isEmpty = true := by
  have succeeds : (∃ corrected, query settings catalog detected given = .ok corrected) ↔
      ¬ (NothingFills catalog detected given.code.toList ∨
        ∃ mention ∈ mentionsOf
            (parts catalog (newCode settings catalog detected given.code.toList)),
          mention.isEmpty = true) := by
    simp only [query_eq_ok_iff known, exists_and_left, exists_eq, and_true, filled_iff known,
      not_or, not_exists, not_and, Bool.not_eq_true, mem_mentionsOf_iff]
  rw [← not_iff_not, ← succeeds, plan]
  cases query settings catalog detected given with
  | ok corrected =>
      refine iff_of_true ?_ ⟨corrected, rfl⟩
      rintro ⟨fault, failed⟩
      cases failed
  | error fault =>
      refine iff_of_false (not_not_intro ⟨fault, rfl⟩) ?_
      rintro ⟨corrected, done⟩
      cases done

/-- **When correction fails.**

If it succeeds, every reference of the new code has a name, and the entities reported are those that
the references mean, each once and in order of first mention.  It fails where a reference is empty
and nothing was detected, and if the references of the code stay in place, nowhere else: no table
holds a backtick, the quotes are balanced, and no open mark is closed by a table.  For plain names
and balanced quotes it fails besides exactly where a table that is written closes an open backtick
which then swallows nothing but blanks. -/
theorem correct_fails_iff (settings : CorrectionSettings) (catalog : Catalog)
    (detected : List Detected) (given : GeneratedQuery) (known : Known catalog detected) :
    (∀ corrected, plan settings catalog detected (.query given) = .ok corrected →
      ∃ query', corrected = .query query' ∧ IsCorrected catalog query') ∧
    (NothingFills catalog detected given.code.toList →
      ∃ fault, plan settings catalog detected (.query given) = .error fault) ∧
    (Unticked (newName? settings catalog detected) (parts catalog given.code.toList) →
      Balanced (newName? settings catalog detected) .outside (parts catalog given.code.toList) →
      Shut (newName? settings catalog detected) (parts catalog given.code.toList) →
        ((∃ fault, plan settings catalog detected (.query given) = .error fault) ↔
          NothingFills catalog detected given.code.toList)) ∧
    (catalog.IsPlain →
      Balanced (newName? settings catalog detected) .outside (parts catalog given.code.toList) →
        ((∃ fault, plan settings catalog detected (.query given) = .error fault) ↔
          NothingFills catalog detected given.code.toList ∨
            ∃ text, SwallowsIn (newName? settings catalog detected)
              (parts catalog given.code.toList) text ∧ Text.trim text = [])) := by
  refine ⟨fun corrected done => ?_, fun nothing => (plan_fails_iff known).2 (.inl nothing),
    fun unticked balanced shut => ?_, fun plain balanced => ?_⟩
  · obtain ⟨query', done', rfl⟩ := plan_query_eq_ok_iff.1 done
    exact ⟨query', rfl, isCorrected_of_query known done'⟩
  · rw [plan_fails_iff known]
    refine or_iff_left_of_imp fun ⟨mention, member, isEmpty⟩ => ?_
    by_contra fills
    have filled : Filled (newName? settings catalog detected) (parts catalog given.code.toList) :=
      (filled_iff known).2 fills
    rw [newCode, (inPlace_iff filled balanced).2 ⟨unticked, shut⟩] at member
    rw [isEmpty_of_mem_renamed filled member] at isEmpty
    cases isEmpty
  · rw [plan_fails_iff known]
    by_cases fills : NothingFills catalog detected given.code.toList
    · exact iff_of_true (.inl fills) (.inl fills)
    · have filled : Filled (newName? settings catalog detected)
          (parts catalog given.code.toList) := (filled_iff known).2 fills
      have passes := forall_written_iff (fun text => (Text.trim text).isEmpty = false)
        ⟨filled, fun _ _ _ => isPlainName_of_newName? plain, balanced⟩
        fun mention member => isEmpty_of_mem_renamed filled member
      rw [or_iff_right fills, or_iff_right fills, ← not_iff_not, not_exists, not_exists]
      simp only [not_and, Bool.not_eq_true, ← List.isEmpty_iff]
      exact passes

/-- A query of items whose table is not named. -/
def namelessQuery : GeneratedQuery where
  code := "SELECT name FROM tab"
  referencedEntities := []

/-- A query with a backtick that is never closed in front of the mark of tables alone. -/
def openMarkQuery : GeneratedQuery where
  code := "SELECT `tab tabItem"
  referencedEntities := []

/-- The query without a name is corrected when items were detected and not when nothing was. -/
theorem correct_fails_iff_namelessQuery :
    (∃ fault, plan {} items [] (.query namelessQuery) = .error fault) ∧
      ∃ corrected, plan {} items detectedItem (.query namelessQuery) = .ok (.query corrected) ∧
        IsCorrected items corrected := by
  have nothing : NothingFills items [] namelessQuery.code.toList := by
    refine ⟨rfl, ?_⟩
    have someEmpty : (scan items namelessQuery.code.toList).any (·.isEmpty) = true := by
      decide +kernel
    exact List.any_eq_true.1 someEmpty
  obtain ⟨query', done⟩ := exists_eq_ok_of_isOk
    (show (query {} items detectedItem namelessQuery).isOk = true by decide +kernel)
  have donePlan := plan_query_eq_ok_iff.2 ⟨query', done, rfl⟩
  obtain ⟨corrected, same, isCorrected⟩ :=
    (correct_fails_iff {} items detectedItem namelessQuery known_detectedItem).1 _ donePlan
  obtain rfl := Plan.query.inj same
  exact ⟨(correct_fails_iff {} items [] namelessQuery nofun).2.1 nothing, query', donePlan,
    isCorrected⟩

/-- The query with the open backtick cannot be corrected, though no reference of it is empty and
items were detected. -/
theorem correct_fails_of_open_backtick :
    Known items detectedItem ∧ detectedItem ≠ [] ∧
      (∀ reference ∈ scan items openMarkQuery.code.toList, reference.isEmpty = false) ∧
      plan {} items detectedItem (.query openMarkQuery) = .error (.stillEmpty "`tab `") := by
  refine ⟨known_detectedItem, nofun, ?_, ?_⟩
  · have noneEmpty : (scan items openMarkQuery.code.toList).all (!·.isEmpty) = true := by
      decide +kernel
    intro reference member
    simpa using List.all_eq_true.1 noneEmpty reference member
  · have fails : query {} items detectedItem openMarkQuery = .error (.stillEmpty "`tab `") := by
      decide +kernel
    rw [plan, fails]
    rfl

end Correction

end Inquiry
