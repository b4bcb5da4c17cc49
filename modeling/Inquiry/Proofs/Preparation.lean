import Inquiry.Proofs.Acceptance
import Inquiry.Proofs.Idempotence
import Inquiry.Proofs.Trimming
import Inquiry.Session
import Mathlib.Data.List.Forall2

/-!
# References of a prepared query

A query is prepared by correcting it and checking what correction wrote.  The
references of the prepared query should be those of the proposed one, each with
the entity that was chosen for it (`KeepsReferences`): a reference that nothing
can be chosen for stays as it is, and the check refuses it.

So it is where the references stay in place.  But the check reads the corrected
code anew.  An open backtick that is closed by a table that correction wrote
hides everything between them, and with it a reference that no entity is meant
by.  Outside a literal the swallowed text is a reference itself, and there is
one too many.  Inside a literal it counts for nothing, and the query passes
(`prepare_of_hidden_backtick`).  For plain names and balanced quotes this is the
only way in which references get lost (`prepare_references_iff`).
-/

set_option autoImplicit false

namespace Inquiry

open Inquiry.Code

/-! ## References that a check lets pass -/

/-- A mention that a check lets pass: it has a name and means an entity. -/
def IsAccepted (catalog : Catalog) (mention : Mention) : Prop :=
  mention.isEmpty = false ∧ (catalog.resolve? mention.identifier).isSome = true

/-- All mentions among parts are accepted. -/
def AllAccepted (catalog : Catalog) (parts : List Part) : Prop :=
  ∀ mention ∈ mentionsOf parts, IsAccepted catalog mention

/-- Code refers to tables, and each of its references has a name and means an entity. -/
def TablesResolve (catalog : Catalog) (code : List Char) : Prop :=
  scan catalog code ≠ [] ∧
    ∀ reference ∈ scan catalog code,
      reference.isEmpty = false ∧ (reference.entity? catalog).isSome = true

theorem tablesResolve_iff {catalog : Catalog} {code : List Char} :
    TablesResolve catalog code ↔
      mentionsOf (parts catalog code) ≠ [] ∧ AllAccepted catalog (parts catalog code) := by
  rw [AllAccepted, ← map_mention_scan, List.forall_mem_map, ne_eq, List.map_eq_nil_iff]
  rfl

/-- The tables of an accepted query resolve; blanks around the code do not matter. -/
theorem tablesResolve_of_accepted {parser : Sql.Parser} {catalog : Catalog}
    {given : GeneratedQuery} (accepted : Check.query parser catalog given = .ok ()) :
    TablesResolve catalog given.code.toList := by
  obtain ⟨-, -, tablesAccepted⟩ := Check.query_eq_ok_iff.1 accepted
  have trimmed : TablesResolve catalog (Text.trim given.code.toList) :=
    Check.tables_eq_ok_iff.1 tablesAccepted
  rw [tablesResolve_iff, AllAccepted, mentions_trim] at trimmed
  exact tablesResolve_iff.2 trimmed

/-- All mentions of an accepted query are let pass. -/
theorem isAccepted_of_query {parser : Sql.Parser} {catalog : Catalog} {given : GeneratedQuery}
    (accepted : Check.query parser catalog given = .ok ()) :
    ∀ mention ∈ mentionsOf (parts catalog given.code.toList), IsAccepted catalog mention :=
  (tablesResolve_iff.1 (tablesResolve_of_accepted accepted)).2

namespace Correction

variable {settings : CorrectionSettings} {catalog : Catalog} {detected : List Detected}

/-- A mention has a name and means the entity that was chosen for the proposed one. -/
def Means (settings : CorrectionSettings) (catalog : Catalog) (detected : List Detected)
    (proposed kept : Mention) : Prop :=
  kept.isEmpty = false ∧ ∃ entity, target? settings catalog detected proposed = some entity ∧
    catalog.resolve? kept.identifier = some entity

/-- An accepted mention with the short name of an entity means the entity. -/
theorem means_of_shortName {proposed kept : Mention} {entity : Entity}
    (found : target? settings catalog detected proposed = some entity)
    (same : kept.identifier = entity.shortName) (accepted : IsAccepted catalog kept) :
    Means settings catalog detected proposed kept := by
  obtain ⟨notEmpty, isSome⟩ := accepted
  obtain ⟨other, meant⟩ := Option.isSome_iff_exists.1 isSome
  obtain ⟨member, sameKey, -⟩ := Catalog.of_resolve? meant
  rw [same, keyOf_shortName] at sameKey
  rw [Catalog.eq_of_key_eq member (mem_of_target? found) sameKey] at meant
  exact ⟨notEmpty, entity, found, meant⟩

/-- An accepted mention is not one that nothing could be chosen for. -/
theorem means_of_renamed {mention : Mention}
    (accepted : IsAccepted catalog (mention.renamed (newName? settings catalog detected))) :
    Means settings catalog detected mention
      (mention.renamed (newName? settings catalog detected)) := by
  cases found : target? settings catalog detected mention with
  | some entity =>
      have renamed : mention.renamed (newName? settings catalog detected) =
          .backtick entity.shortName := by
        simp [Mention.renamed, newName?, found]
      rw [renamed] at accepted ⊢
      exact means_of_shortName found rfl accepted
  | none =>
      have renamed : mention.renamed (newName? settings catalog detected) = mention := by
        simp [Mention.renamed, newName?, found]
      rw [renamed] at accepted
      obtain ⟨notEmpty, isSome⟩ := accepted
      obtain ⟨entity, meant⟩ := Option.isSome_iff_exists.1 isSome
      rw [target?, notEmpty, if_neg Bool.false_ne_true, repair?, meant] at found
      cases found

theorem isSome_of_forall₂_means {mentions kept : List Mention}
    (means : List.Forall₂ (Means settings catalog detected) mentions kept) :
    ∀ mention ∈ mentions, (newName? settings catalog detected mention).isSome = true := by
  intro mention member
  induction means with
  | nil => cases member
  | cons first rest ih =>
      rcases List.mem_cons.1 member with rfl | member
      · obtain ⟨-, entity, found, -⟩ := first
        rw [newName?, found]
        rfl
      · exact ih member

theorem means_of_isReadAs {proposed kept : Mention}
    (reads : proposed.IsReadAs (newName? settings catalog detected) kept)
    (accepted : IsAccepted catalog kept) : Means settings catalog detected proposed kept := by
  rcases reads with rfl | ⟨name, named, rfl⟩
  · exact means_of_renamed accepted
  · obtain ⟨entity, found, rfl⟩ := Option.map_eq_some_iff.1 named
    exact means_of_shortName found rfl accepted

theorem forall₂_means {mentions kept : List Mention}
    (reads : List.Forall₂ (Mention.IsReadAs (newName? settings catalog detected)) mentions kept)
    (accepted : ∀ mention ∈ kept, IsAccepted catalog mention) :
    List.Forall₂ (Means settings catalog detected) mentions kept := by
  induction reads with
  | nil => exact .nil
  | cons first rest ih =>
      exact .cons (means_of_isReadAs first (accepted _ (List.mem_cons_self ..)))
        (ih fun mention member => accepted mention (List.mem_cons_of_mem _ member))

end Correction

/-! ## Preparing a query -/

namespace Session

open Correction

variable {session : Session} {detected : List Detected}

/-- What is written for the mentions of a query that is prepared. -/
def nameFor? (session : Session) (detected : List Detected) : Mention → Option (List Char) :=
  newName? session.settings.correction session.catalog detected

/-- The references of prepared code are those of proposed code, in their order, and each of them
has a name and means the entity that was chosen for it. -/
def KeepsReferences (session : Session) (detected : List Detected)
    (proposed prepared : List Char) : Prop :=
  List.Forall₂ (fun reference kept =>
      kept.isEmpty = false ∧
        ∃ entity, target? session.settings.correction session.catalog detected
            reference.mention = some entity ∧ kept.entity? session.catalog = some entity)
    (scan session.catalog proposed) (scan session.catalog prepared)

theorem keepsReferences_iff {proposed prepared : List Char} :
    session.KeepsReferences detected proposed prepared ↔
      List.Forall₂ (Means session.settings.correction session.catalog detected)
        (mentionsOf (parts session.catalog proposed))
        (mentionsOf (parts session.catalog prepared)) := by
  rw [← map_mention_scan, ← map_mention_scan, List.forall₂_map_left_iff,
    List.forall₂_map_right_iff]
  rfl

/-- A prepared query is one that was corrected, and accepted as it was corrected. -/
theorem of_prepare {given : GeneratedQuery} {prepared : Plan}
    (done : session.prepare detected (.query given) = .ok prepared) :
    ∃ corrected, prepared = .query corrected ∧
      Correction.query session.settings.correction session.catalog detected given =
        .ok corrected ∧
      Check.query session.parser session.catalog corrected = .ok () := by
  have ofQuery : ∃ corrected, prepared = .query corrected ∧
      session.prepareQuery detected given = .ok corrected := by
    rw [prepare] at done
    cases result : session.prepareQuery detected given with
    | error failure =>
        rw [result] at done
        cases done
    | ok corrected =>
        rw [result] at done
        cases done
        exact ⟨corrected, rfl, rfl⟩
  obtain ⟨corrected, isQuery, done⟩ := ofQuery
  refine ⟨corrected, isQuery, ?_⟩
  have stages : (do
      let corrected ←
        (Correction.query session.settings.correction session.catalog detected given).mapError
          Failure.correction
      (Check.query session.parser session.catalog corrected).mapError Failure.check
      return corrected) = .ok corrected := by
    rw [prepareQuery] at done
    split at done
    · exact done
    · split at done
      · exact done
      · cases done
  obtain ⟨other, correctedOk, stages⟩ := bind_eq_ok_iff.1 stages
  obtain ⟨passed, checkedOk, stages⟩ := bind_eq_ok_iff.1 stages
  cases stages
  exact ⟨eq_ok_of_mapError_eq_ok correctedOk, eq_ok_of_mapError_eq_ok checkedOk⟩

/-- **When preparation keeps the references of a query.**

It keeps them where they stay in place: no table holds a backtick, the quotes are balanced, and no
open mark is closed by a table.  For plain names, and balanced quotes, it keeps them exactly when
an entity is found for each of them and the open backticks are steady: one that a table closes
stands in a literal, and leaves another one behind the table that stays open. -/
theorem prepare_references_iff (session : Session) (detected : List Detected)
    (given : GeneratedQuery) (prepared : Plan) (known : Known session.catalog detected)
    (done : session.prepare detected (.query given) = .ok prepared) :
    (Unticked (session.nameFor? detected) (parts session.catalog given.code.toList) →
      Balanced (session.nameFor? detected) .outside (parts session.catalog given.code.toList) →
      Shut (session.nameFor? detected) (parts session.catalog given.code.toList) →
        session.KeepsReferences detected given.code.toList prepared.code) ∧
    (session.catalog.IsPlain →
      Balanced (session.nameFor? detected) .outside (parts session.catalog given.code.toList) →
        (session.KeepsReferences detected given.code.toList prepared.code ↔
          (∀ reference ∈ scan session.catalog given.code.toList,
            (target? session.settings.correction session.catalog detected
              reference.mention).isSome = true) ∧
          Steady (session.nameFor? detected) (parts session.catalog given.code.toList))) := by
  obtain ⟨corrected, rfl, corrects, checked⟩ := of_prepare done
  have accepted := isAccepted_of_query checked
  obtain ⟨filled, -, rfl⟩ := (query_eq_ok_iff known).1 corrects
  simp only [String.toList_ofList] at accepted
  rw [keepsReferences_iff, Plan.code, String.toList_ofList]
  constructor
  · intro unticked balanced shut
    have inPlace : InPlace (session.nameFor? detected) session.catalog given.code.toList :=
      (inPlace_iff filled balanced).2 ⟨unticked, shut⟩
    refine forall₂_means ?_ accepted
    have reads : mentionsOf (parts session.catalog
        (written (session.nameFor? detected) (parts session.catalog given.code.toList))) = _ :=
      congrArg mentionsOf inPlace
    rw [newCode, ← nameFor?, reads, mentionsOf_map_renamed]
    exact isReadAs_map_renamed _
  · intro plain balanced
    have plainly : WrittenPlainly (session.nameFor? detected) session.catalog .outside
        (parts session.catalog given.code.toList) :=
      ⟨filled, fun _ _ _ => isPlainName_of_newName? plain, balanced⟩
    constructor
    · intro means
      have named := isSome_of_forall₂_means means
      refine ⟨fun reference inScan => ?_, steady_of_length_le plainly
        (fun mention member => named mention (mem_mentionsOf_iff.2 member)) ?_⟩
      · have isSome := named reference.mention
          (mem_mentionsOf_iff.2 (table_mem_parts_iff.2 ⟨reference, inScan, rfl⟩))
        rw [newName?, Option.isSome_map] at isSome
        exact isSome
      · exact Nat.le_of_eq means.length_eq.symm
    · rintro ⟨targets, steady⟩
      refine forall₂_means (isReadAs_of_steady plainly ?_ steady) accepted
      intro mention member
      obtain ⟨reference, inScan, rfl⟩ := table_mem_parts_iff.1 member
      have isSome := targets reference inScan
      rw [← Option.isSome_map (f := Entity.shortName)] at isSome
      exact isSome

/-- A session about items. -/
def itemSession : Session where
  catalog := items
  settings := {}
  router := { primary := Proposer.rules }

/-- A query with an open backtick in a literal, a reference that means nothing, and a table. -/
def hidingQuery : GeneratedQuery where
  code := "SELECT '`tab' FROM tabZzz, tabItem"
  referencedEntities := []

/-- The query of items is prepared, and its references are kept. -/
theorem prepare_references_iff_bareQuery :
    ∃ prepared, itemSession.prepare detectedItem (.query bareQuery) = .ok prepared ∧
      itemSession.KeepsReferences detectedItem bareQuery.code.toList prepared.code := by
  obtain ⟨prepared, done⟩ := exists_eq_ok_of_isOk
    (show (itemSession.prepare detectedItem (.query bareQuery)).isOk = true by decide +kernel)
  obtain ⟨unticked, balanced, shut⟩ := undisturbed_bareQuery
  exact ⟨prepared, done, (prepare_references_iff itemSession detectedItem bareQuery prepared
    known_detectedItem done).1 unticked balanced shut⟩

/-- The query with the backtick in the literal is prepared, although nothing can be chosen for one
of its references. -/
theorem prepare_of_hidden_backtick :
    Known itemSession.catalog detectedItem ∧
      (∃ reference ∈ scan items hidingQuery.code.toList,
        target? {} items detectedItem reference.mention = none) ∧
      ∃ prepared, itemSession.prepare detectedItem (.query hidingQuery) = .ok prepared ∧
        ¬ itemSession.KeepsReferences detectedItem hidingQuery.code.toList prepared.code := by
  have lost : .bare "Zzz".toList ∈ mentionsOf (parts items hidingQuery.code.toList) := by
    decide +kernel
  have untargeted : newName? {} items detectedItem (.bare "Zzz".toList) = none := by
    decide +kernel
  obtain ⟨prepared, done⟩ := exists_eq_ok_of_isOk
    (show (itemSession.prepare detectedItem (.query hidingQuery)).isOk = true by decide +kernel)
  refine ⟨known_detectedItem, ?_, prepared, done, ?_⟩
  · obtain ⟨reference, inScan, same⟩ := table_mem_parts_iff.1 (mem_mentionsOf_iff.1 lost)
    refine ⟨reference, inScan, ?_⟩
    rw [same]
    exact Option.map_eq_none_iff.1 untargeted
  · intro keeps
    have isSome := isSome_of_forall₂_means (keepsReferences_iff.1 keeps) _ lost
    have isNone : newName? itemSession.settings.correction itemSession.catalog detectedItem
        (.bare "Zzz".toList) = none := untargeted
    rw [isNone] at isSome
    cases isSome

end Session

end Inquiry
