import Inquiry.Proofs.Correcting
import Inquiry.Proofs.Outcomes

/-!
# Correcting twice

A second correction should find nothing left to change.  It does find nothing
where the references of the query stay in place, and this can be seen in the
query before the first correction: no table that is written holds a backtick,
references and tables leave the same quotes open, and no mark that stands open
in front of a name is closed by a table written later (`correct_again_iff`).

The last of these can fail for quite ordinary code, such as a backtick in front
of the word table that is never closed.  The first backtick that correction
writes then closes it.  The table that was written stands outside the
backticks, the second correction takes it for a bare name, and puts backticks
around it once more.  For a catalog with plain names this always happens
(`exists_bare_of_not_shut`), so there the condition is exact.
-/

set_option autoImplicit false

namespace Inquiry

open Inquiry.Code

/-! ## Parts that renaming does not change -/

namespace Code

variable {rename : Mention → Option (List Char)} {catalog : Catalog}

theorem eq_of_append_mark_eq {mark : Char} {first second rest rest' : List Char}
    (noFirst : mark ∉ first) (noSecond : mark ∉ second)
    (same : first ++ mark :: rest = second ++ mark :: rest') : first = second := by
  have ofFirst := closedBody?_append_cons noFirst rest
  rw [same, closedBody?_append_cons noSecond] at ofFirst
  exact (congrArg Prod.fst (Option.some.inj ofFirst)).symm

/-- A mention that begins as a name between backticks does is that name. -/
theorem Mention.eq_backtick_of_append_eq {mention : Mention} {name rest rest' : List Char}
    (noTick : '`' ∉ name) (closed : ∀ other, mention = .backtick other → '`' ∉ other)
    (same : (Mention.backtick name).characters ++ rest = mention.characters ++ rest') :
    mention = .backtick name := by
  cases mention with
  | backtick other =>
      have inner : name ++ '`' :: rest = other ++ '`' :: rest' := by
        simpa [Mention.characters] using same
      rw [eq_of_append_mark_eq noTick (closed other rfl) inner]
  | doubleQuote other => exact absurd (List.cons.inj same).1 (by decide)
  | bare other => exact absurd (List.cons.inj same).1 (by decide)
  | emptyLiteral quote => exact absurd (List.cons.inj same).1 (by decide)

/-- Where renaming does not change the characters of parts, it renames each mention to itself. -/
theorem eq_backtick_of_written_eq {parts : List Part} (unticked : Unticked rename parts)
    (closed : ∀ name, .table (.backtick name) ∈ parts → '`' ∉ name)
    (same : written rename parts = parts.flatMap Part.characters) :
    ∀ mention name, .table mention ∈ parts → rename mention = some name →
      mention = .backtick name := by
  induction parts with
  | nil =>
      intro mention name member
      cases member
  | cons part rest ih =>
      intro mention name member named
      have ofRest : written rename rest = rest.flatMap Part.characters →
          .table mention ∈ rest → mention = .backtick name := fun restSame member =>
        ih (fun mention name member => unticked mention name (List.mem_cons_of_mem _ member))
          (fun name member => closed name (List.mem_cons_of_mem _ member)) restSame mention name
          member named
      rw [written_cons, List.flatMap_cons] at same
      cases part with
      | kept characters =>
          rcases List.mem_cons.1 member with isFirst | member
          · cases isFirst
          · exact ofRest (List.append_cancel_left same) member
      | table first =>
          rw [Part.renamed] at same
          cases renamed : rename first with
          | none =>
              rw [renamed] at same
              rcases List.mem_cons.1 member with isFirst | member
              · cases isFirst
                rw [renamed] at named
                cases named
              · exact ofRest (List.append_cancel_left same) member
          | some newName =>
              rw [renamed] at same
              have isTicked : first = .backtick newName :=
                Mention.eq_backtick_of_append_eq
                  (unticked first newName (List.mem_cons_self ..) renamed)
                  (fun other isOther => closed other (by
                    rw [← isOther]
                    exact List.mem_cons_self ..)) same
              rcases List.mem_cons.1 member with isFirst | member
              · cases isFirst
                rw [renamed] at named
                rw [isTicked, Option.some.inj named]
              · rw [isTicked] at same
                exact ofRest (List.append_cancel_left same) member

end Code

/-! ## A second correction -/

namespace Correction

variable {settings : CorrectionSettings} {catalog : Catalog} {detected : List Detected}

/-- The bare name of an entity with a key is written between backticks. -/
theorem newName?_bare {entity : Entity} (member : entity ∈ catalog.entities)
    (notEmpty : entity.key ≠ []) :
    newName? settings catalog detected (.bare entity.shortName) = some entity.shortName := by
  have named : (Mention.bare entity.shortName).isEmpty = false := isEmpty_shortName member
  rw [newName?, target?, named, if_neg Bool.false_ne_true, Mention.identifier, repair?,
    Catalog.resolve?_of_mem member (keyOf_shortName entity) notEmpty, Option.map_some]

theorem unticked_newName? (noTick : ∀ entity ∈ catalog.entities, '`' ∉ entity.name.toList)
    (parts : List Part) : Unticked (newName? settings catalog detected) parts := by
  intro mention name member named inside
  obtain ⟨entity, found, rfl⟩ := Option.map_eq_some_iff.1 named
  exact noTick entity (mem_of_target? found) (List.mem_filter.1 inside).1

/-- Nothing is left to change in code: every reference is the table written for it, or nothing is
written for it. -/
def Settled (settings : CorrectionSettings) (catalog : Catalog) (detected : List Detected)
    (code : List Char) : Prop :=
  ∀ mention name, .table mention ∈ parts catalog code →
    newName? settings catalog detected mention = some name → mention = .backtick name

/-- Correction keeps settled code, and of catalogs without backticks in names no other code. -/
theorem newCode_eq_iff_settled (noTick : ∀ entity ∈ catalog.entities, '`' ∉ entity.name.toList)
    (code : List Char) :
    newCode settings catalog detected code = code ↔ Settled settings catalog detected code := by
  have whole : (parts catalog code).flatMap Part.characters = code :=
    flatMap_partsOf_tokensFrom catalog .outside [] code
  constructor
  · intro same
    refine eq_backtick_of_written_eq (unticked_newName? noTick _) ?_ ?_
    · intro name member
      obtain ⟨front, back, cut⟩ := List.append_of_mem member
      obtain ⟨-, stands⟩ := stands_of_table cut
      exact stands
    · rw [whole]
      exact same
  · intro settled
    have kept : (parts catalog code).map (Part.renamed (newName? settings catalog detected)) =
        (parts catalog code).map id := by
      apply List.map_congr_left
      intro part member
      cases part with
      | kept characters => rfl
      | table mention =>
          rw [Part.renamed]
          cases named : newName? settings catalog detected mention with
          | none => rfl
          | some name => rw [settled mention name member named]; rfl
    rw [newCode, written, kept, List.map_id, whole]

theorem plan_query_eq_ok_iff {given : GeneratedQuery} {corrected : Plan} :
    plan settings catalog detected (.query given) = .ok corrected ↔
      ∃ query', query settings catalog detected given = .ok query' ∧
        corrected = .query query' := by
  rw [plan]
  cases query settings catalog detected given with
  | error fault => simp [Except.map]
  | ok query' => simp [Except.map, eq_comm]

/-- For plain names a second correction that changes nothing shows that no open mark was closed:
a table that closed one would stand bare, and be written anew. -/
theorem shut_of_newCode_eq (plain : catalog.IsPlain) {code : List Char}
    (filled : Filled (newName? settings catalog detected) (parts catalog code))
    (balanced : Balanced (newName? settings catalog detected) .outside (parts catalog code))
    (same : newCode settings catalog detected (newCode settings catalog detected code) =
      newCode settings catalog detected code) :
    Shut (newName? settings catalog detected) (parts catalog code) := by
  have settled := (newCode_eq_iff_settled plain.noTick _).1 same
  by_contra notShut
  obtain ⟨mention, name, -, named, bare⟩ :=
    exists_bare_of_not_shut ⟨filled, fun _ _ _ => isPlainName_of_newName? plain, balanced⟩ notShut
  obtain ⟨entity, found, rfl⟩ := Option.map_eq_some_iff.1 named
  have member := mem_of_target? found
  have again := settled _ _ bare (newName?_bare member (plain entity member).1)
  cases again

/-- **When a second correction changes nothing.**

It changes nothing where the references of the code stay in place: no table holds a backtick, the
quotes are balanced, and no open mark is closed by a table.  For plain names, and balanced quotes,
the last of these is necessary.  And whatever else the names are, as long as no backtick is in one,
a second correction changes nothing exactly where the first one left nothing to change. -/
theorem correct_again_iff (settings : CorrectionSettings) (catalog : Catalog)
    (detected : List Detected) (given corrected : Plan) (known : Known catalog detected)
    (done : plan settings catalog detected given = .ok corrected) :
    (Unticked (newName? settings catalog detected) (parts catalog given.code) →
      Balanced (newName? settings catalog detected) .outside (parts catalog given.code) →
      Shut (newName? settings catalog detected) (parts catalog given.code) →
        plan settings catalog detected corrected = .ok corrected) ∧
    (catalog.IsPlain →
      Balanced (newName? settings catalog detected) .outside (parts catalog given.code) →
        (plan settings catalog detected corrected = .ok corrected ↔
          Shut (newName? settings catalog detected) (parts catalog given.code))) ∧
    ((∀ entity ∈ catalog.entities, '`' ∉ entity.name.toList) →
      (plan settings catalog detected corrected = .ok corrected ↔
        Settled settings catalog detected corrected.code)) := by
  cases given with
  | operation given =>
      cases done
      have noParts : parts catalog (Plan.operation given).code = [] := by
        rw [Plan.code, parts, tokens, tokensFrom, partsOf_nil]
      have shut : Shut (newName? settings catalog detected) [] := by
        intro earlier mark later cut
        simp at cut
      have settled : Settled settings catalog detected (Plan.operation given).code := by
        intro mention name member
        rw [noParts] at member
        cases member
      rw [noParts]
      exact ⟨fun _ _ _ => rfl, fun _ _ => ⟨fun _ => shut, fun _ => rfl⟩,
        fun _ => ⟨fun _ => settled, fun _ => rfl⟩⟩
  | query given =>
      obtain ⟨query', done', rfl⟩ := plan_query_eq_ok_iff.1 done
      obtain ⟨filled, -, same⟩ := (query_eq_ok_iff known).1 done'
      have ofCode : (Plan.query query').code =
          newCode settings catalog detected given.code.toList := by
        rw [Plan.code, same, String.toList_ofList]
      have again : plan settings catalog detected (.query query') = .ok (.query query') ↔
          newCode settings catalog detected (newCode settings catalog detected given.code.toList) =
            newCode settings catalog detected given.code.toList := by
        rw [plan_query_eq_ok_iff, ← query_again_iff known done']
        simp
      have ofUndisturbed (unticked : Unticked (newName? settings catalog detected)
            (parts catalog given.code.toList))
          (balanced : Balanced (newName? settings catalog detected) .outside
            (parts catalog given.code.toList))
          (shut : Shut (newName? settings catalog detected) (parts catalog given.code.toList)) :
          newCode settings catalog detected (newCode settings catalog detected given.code.toList) =
            newCode settings catalog detected given.code.toList :=
        newCode_of_inPlace ((inPlace_iff filled balanced).2 ⟨unticked, shut⟩)
      rw [again, ofCode, Plan.code]
      refine ⟨ofUndisturbed, fun plain balanced => ⟨shut_of_newCode_eq plain filled balanced, ?_⟩,
        fun noTick => newCode_eq_iff_settled noTick _⟩
      exact ofUndisturbed (unticked_newName? plain.noTick _) balanced

theorem items_isNamed : "Item" ≠ "" ∧ Text.trimmed "Item" = "Item" := ⟨by decide, rfl⟩

/-- A catalog of items, which were detected. -/
def items : Catalog := .alone { name := "Item", fields := [] } items_isNamed

/-- The item that was detected. -/
def detectedItem : List Detected := [⟨"Item", .one, true, "item"⟩]

/-- A query of items, whose table is written bare. -/
def bareQuery : GeneratedQuery where
  code := "SELECT name FROM tabItem"
  referencedEntities := []

/-- A query with a backtick that is never closed in front of the word table. -/
def openQuery : GeneratedQuery where
  code := "SELECT `table FROM tabItem"
  referencedEntities := []

theorem known_detectedItem : Known items detectedItem := by
  intro entity member
  rw [List.mem_singleton.1 member]
  rfl

/-- What is asked of code for its references to stay in place holds of the query of items. -/
theorem undisturbed_bareQuery :
    Unticked (newName? {} items detectedItem) (parts items bareQuery.code.toList) ∧
      Balanced (newName? {} items detectedItem) .outside (parts items bareQuery.code.toList) ∧
      Shut (newName? {} items detectedItem) (parts items bareQuery.code.toList) := by
  have mentions : mentionsOf (parts items bareQuery.code.toList) = [.bare "Item".toList] := by
    decide +kernel
  have newName : newName? {} items detectedItem (.bare "Item".toList) = some "Item".toList := by
    decide +kernel
  have noTick : Part.kept ['`'] ∉ parts items bareQuery.code.toList := by decide +kernel
  have noDouble : Part.kept ['"'] ∉ parts items bareQuery.code.toList := by decide +kernel
  have only : ∀ mention name, .table mention ∈ parts items bareQuery.code.toList →
      newName? {} items detectedItem mention = some name →
        mention = .bare "Item".toList ∧ name = "Item".toList := by
    intro mention name member named
    have inMentions := mem_mentionsOf_iff.2 member
    rw [mentions] at inMentions
    obtain rfl := List.mem_singleton.1 inMentions
    exact ⟨rfl, Option.some.inj (named.symm.trans newName)⟩
  have bare : ∀ symbol ∈ "Item".toList, isBareSymbol symbol = true :=
    List.all_eq_true.1 (by decide +kernel)
  refine ⟨?_, ?_, ?_⟩
  · intro mention name member named
    rw [(only mention name member named).2]
    decide +kernel
  · apply balanced_of_isUnquoted
    intro mention name member named
    obtain ⟨rfl, rfl⟩ := only mention name member named
    exact ⟨isUnquoted_of_bare bare, isUnquoted_of_bare bare⟩
  · apply shut_of_notMem
    intro mark marked
    rcases isMark_iff.1 marked with rfl | rfl
    · exact noTick
    · exact noDouble

/-- The query of items is corrected, and a second correction changes nothing. -/
theorem correct_again_iff_bareQuery :
    ∃ corrected, plan {} items detectedItem (.query bareQuery) = .ok corrected ∧
      plan {} items detectedItem corrected = .ok corrected := by
  obtain ⟨query', done⟩ := exists_eq_ok_of_isOk
    (show (query {} items detectedItem bareQuery).isOk = true by decide +kernel)
  have donePlan := plan_query_eq_ok_iff.2 ⟨query', done, rfl⟩
  obtain ⟨unticked, balanced, shut⟩ := undisturbed_bareQuery
  exact ⟨.query query', donePlan, (correct_again_iff {} items detectedItem (.query bareQuery)
    (.query query') known_detectedItem donePlan).1 unticked balanced shut⟩

/-- The query with the open backtick is corrected, and a second correction changes it again. -/
theorem correct_again_of_open_backtick :
    Known items detectedItem ∧
      ∃ corrected, plan {} items detectedItem (.query openQuery) = .ok corrected ∧
        plan {} items detectedItem corrected ≠ .ok corrected := by
  have differs : newCode {} items detectedItem
      (newCode {} items detectedItem openQuery.code.toList) ≠
        newCode {} items detectedItem openQuery.code.toList := by
    decide +kernel
  obtain ⟨query', done⟩ := exists_eq_ok_of_isOk
    (show (query {} items detectedItem openQuery).isOk = true by decide +kernel)
  refine ⟨known_detectedItem, .query query', plan_query_eq_ok_iff.2 ⟨query', done, rfl⟩, ?_⟩
  intro again
  obtain ⟨query'', done', same⟩ := plan_query_eq_ok_iff.1 again
  obtain rfl := Plan.query.inj same
  exact differs ((query_again_iff known_detectedItem done).1 done')

end Correction

end Inquiry
