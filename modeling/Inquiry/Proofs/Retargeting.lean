import Inquiry.Execution.Attempts
import Inquiry.Proofs.Swallowing

/-!
# Pointing references elsewhere

After a complaint about a table the references to it are pointed at the entity
detected first.  What is written is the table of that entity, so this is a
renaming of mentions like correction (`retarget_eq`), and the references of the
new code can be told from those of the old one.

The new code is not checked again.  If all references of the old code mean an
entity, those of the new one do where two things hold: the entity itself can be
meant by its table, and the references stay in place.  The second is asked of
the code before anything is sent, for every complaint that may come
(`Sturdy`), and pointing references elsewhere keeps it (`Sturdy.pointed`).  For
plain names, whatever the code is, all references of the new code mean an entity
exactly where no open backtick does harm (`tablesResolve_pointed_iff`).
-/

set_option autoImplicit false

namespace Inquiry

open Inquiry.Code

/-! ## Renaming twice -/

namespace Code

variable {rename again : Mention → Option (List Char)} {quoting : Quoting} {parts : List Part}

/-- Balanced parts leave the same quotes open after they were renamed. -/
theorem Balanced.after_written (balanced : Balanced rename quoting parts) :
    quoting.after (written rename parts) = quoting.after (parts.flatMap Part.characters) := by
  induction parts generalizing quoting with
  | nil => rfl
  | cons part rest ih =>
      have ofPart : quoting.after (part.renamed rename).characters =
          quoting.after part.characters := by
        cases part with
        | kept characters => rfl
        | table mention =>
            cases named : rename mention with
            | none => simp [Part.renamed, named]
            | some name =>
                rw [Part.renamed, named]
                exact balanced [] mention rest name rfl named
      rw [written_cons, List.flatMap_cons, Quoting.after_append, Quoting.after_append, ofPart,
        ih balanced.tail]

theorem exists_of_map_renamed_eq {earlier' later' : List Part} {part' : Part}
    (cut : parts.map (Part.renamed rename) = earlier' ++ part' :: later') :
    ∃ earlier part later, parts = earlier ++ part :: later ∧
      earlier.map (Part.renamed rename) = earlier' ∧ part.renamed rename = part' ∧
      later.map (Part.renamed rename) = later' := by
  obtain ⟨earlier, rest, rfl, ofEarlier, ofRest⟩ := List.map_eq_append_iff.1 cut
  obtain ⟨part, later, rfl, ofPart, ofLater⟩ := List.map_eq_cons_iff.1 ofRest
  exact ⟨earlier, part, later, rfl, ofEarlier, ofPart, ofLater⟩

/-- A mention among renamed parts was written, or it was there and nothing was written for it. -/
theorem of_renamed_eq_table {part : Part} {mention : Mention}
    (same : part.renamed rename = .table mention) :
    ∃ first, part = .table first ∧
      ((∃ name, rename first = some name ∧ mention = .backtick name) ∨
        rename first = none ∧ mention = first) := by
  cases part with
  | kept characters => cases same
  | table first =>
      refine ⟨first, rfl, ?_⟩
      rw [Part.renamed] at same
      cases named : rename first with
      | some name =>
          rw [named] at same
          cases same
          exact .inl ⟨name, rfl, rfl⟩
      | none =>
          rw [named] at same
          cases same
          exact .inr ⟨rfl, rfl⟩

theorem of_renamed_eq_kept {part : Part} {characters : List Char}
    (same : part.renamed rename = .kept characters) : part = .kept characters := by
  cases part with
  | kept others => exact same
  | table mention =>
      rw [Part.renamed] at same
      split at same <;> cases same

/-- A second renaming that writes the same names as the first one keeps the quotes balanced. -/
theorem Balanced.map_renamed (first : Balanced rename quoting parts)
    (second : Balanced again quoting parts)
    (same : ∀ mention name other, rename mention = some name →
      again (.backtick name) = some other → other = name) :
    Balanced again quoting (parts.map (Part.renamed rename)) := by
  intro earlier' mention' later' other cut named
  obtain ⟨earlier, part, later, rfl, rfl, ofPart, -⟩ := exists_of_map_renamed_eq cut
  obtain ⟨mention, rfl, ⟨name, renamed, rfl⟩ | ⟨-, rfl⟩⟩ := of_renamed_eq_table ofPart
  · rw [same mention name other renamed named]
  · have ofEarlier : Balanced rename quoting earlier := fun front mention back name cut =>
      first front mention (back ++ .table mention' :: later) name (by rw [cut]; simp)
    have quotes := second earlier mention' later other rfl named
    rw [← ofEarlier.after_written] at quotes
    exact quotes

/-- A second renaming that writes the same names as the first one closes no open mark. -/
theorem Shut.map_renamed (first : Shut rename parts) (second : Shut again parts)
    (same : ∀ mention name other, rename mention = some name →
      again (.backtick name) = some other → other = name) :
    Shut again (parts.map (Part.renamed rename)) := by
  intro earlier' mark later' cut marked begins mention' other member named closes
  obtain ⟨earlier, part, later, rfl, -, ofPart, rfl⟩ := exists_of_map_renamed_eq cut
  obtain rfl := of_renamed_eq_kept ofPart
  obtain ⟨part', inLater, ofPart'⟩ := List.mem_map.1 member
  obtain ⟨mention, rfl, ⟨name, renamed, rfl⟩ | ⟨-, rfl⟩⟩ := of_renamed_eq_table ofPart'
  · rw [same mention name other renamed named] at closes
    exact first earlier mark later rfl marked
      (isPrefix_of_isPrefix_written (by decide) begins) mention name inLater renamed closes
  · refine second earlier mark later rfl marked ?_ mention' other inLater named closes
    -- What begins with the mark of tables is written by neither renaming.
    rw [written, List.map_map, List.flatMap_map] at begins
    rw [written, List.flatMap_map]
    refine isPrefix_flatMap_of_ticked (fun part => ?_) (by decide) begins
    cases part with
    | kept characters => exact .inl rfl
    | table mention =>
        cases renamed : rename mention with
        | none => exact .inl (by simp [Part.renamed, renamed])
        | some name =>
            have ticked : Part.renamed rename (.table mention) = .table (.backtick name) := by
              simp [Part.renamed, renamed]
            rw [Function.comp_apply, ticked]
            exact .inr ((characters_renamed again _).elim (fun kept => ⟨_, kept⟩) id)

end Code

/-! ## Mentions that are rejected -/

namespace Executor

variable {catalog : Catalog} {detected : List Detected} {target : Entity}
  {table : Option (List Char)} {code : List Char}

/-- The entity detected first. -/
def first? (catalog : Catalog) (detected : List Detected) : Option Entity :=
  detected.head?.bind fun first => catalog.get? first.entityName

/-- Whether a mention is pointed elsewhere after a complaint about a table. -/
def rejects (table : Option (List Char)) (mention : Mention) : Bool :=
  mention.isEmpty || table.any fun table =>
    keyOf (tableMark ++ mention.identifier) = keyOf table || keyOf mention.identifier = keyOf table

/-- The name that is written for a mention after a complaint about a table: that of the entity, if
the mention is rejected. -/
def pointed? (target : Entity) (table : Option (List Char)) (mention : Mention) :
    Option (List Char) :=
  if rejects table mention then some target.shortName else none

theorem pointed?_eq_some_iff {mention : Mention} {name : List Char} :
    pointed? target table mention = some name ↔
      rejects table mention = true ∧ name = target.shortName := by
  rw [pointed?]
  split
  case isTrue rejected => simp [rejected, eq_comm]
  case isFalse kept => simp [kept]

theorem mem_of_first? (found : first? catalog detected = some target) :
    target ∈ catalog.entities := by
  obtain ⟨first, -, found⟩ := Option.bind_eq_some_iff.1 found
  exact (Catalog.of_get? found).1

/-- The table that rejected references are pointed at is that of the entity detected first. -/
theorem topTable?_eq (known : Correction.Known catalog detected) :
    Correction.topTable? catalog detected =
      (first? catalog detected).map fun target => markedName target.shortName := by
  cases detected with
  | nil => rfl
  | cons first rest =>
      obtain ⟨entity, found⟩ := Option.isSome_iff_exists.1 (known first (List.mem_cons_self ..))
      simp only [Correction.topTable?, first?, List.head?_cons, Option.map_some, Option.bind_some,
        found]
      rfl

/-- Pointing rejected references at the table of an entity renames them. -/
theorem retarget_eq (catalog : Catalog) (target : Entity) (table : Option (List Char))
    (code : List Char) :
    Correction.retarget catalog (markedName target.shortName) (isRejected table) code =
      written (pointed? target table) (parts catalog code) := by
  refine replaceTables_eq (fun reference => ?_) catalog code
  have same : isRejected table reference = rejects table reference.mention := rfl
  rw [same, pointed?]
  split <;> rfl

/-- A query that is attempted next has the rejected references pointed at the entity detected
first. -/
theorem of_redirected? (known : Correction.Known catalog detected) {given next : GeneratedQuery}
    (redirected : redirected? catalog detected table given = some next) :
    ∃ target, first? catalog detected = some target ∧
      next.code.toList = written (pointed? target table) (parts catalog given.code.toList) := by
  obtain ⟨top, isTop, redirected⟩ := Option.bind_eq_some_iff.1 redirected
  rw [topTable?_eq known] at isTop
  obtain ⟨target, found, rfl⟩ := Option.map_eq_some_iff.1 isTop
  refine ⟨target, found, ?_⟩
  simp only [retarget_eq] at redirected
  split at redirected
  · cases redirected
  · cases redirected
    exact String.toList_ofList

/-! ## Keeping references in place -/

/-- Whatever table a complaint is about, pointing references at the entity leaves the same quotes
open and closes no open mark. -/
structure Sturdy (catalog : Catalog) (target : Entity) (code : List Char) : Prop where
  balanced : ∀ table, Balanced (pointed? target table) .outside (parts catalog code)
  shut : ∀ table, Shut (pointed? target table) (parts catalog code)

/-- The name of the entity between backticks is accepted, if the entity has a key. -/
theorem isAccepted_shortName (member : target ∈ catalog.entities) (hasKey : target.key ≠ []) :
    IsAccepted catalog (.backtick target.shortName) := by
  refine ⟨Correction.isEmpty_shortName member, ?_⟩
  rw [Mention.identifier, Catalog.resolve?_of_mem member (keyOf_shortName target) hasKey]
  rfl

/-- Where all mentions are accepted, they are accepted renamed. -/
theorem allAccepted_map_pointed (member : target ∈ catalog.entities) (hasKey : target.key ≠ [])
    {parts : List Part} (accepted : AllAccepted catalog parts) (table : Option (List Char)) :
    AllAccepted catalog (parts.map (Part.renamed (pointed? target table))) := by
  rw [AllAccepted, mentionsOf_map_renamed, List.forall_mem_map]
  intro mention inParts
  rw [Mention.renamed]
  cases named : pointed? target table mention with
  | none => exact accepted mention inParts
  | some name =>
      obtain ⟨-, rfl⟩ := pointed?_eq_some_iff.1 named
      exact isAccepted_shortName member hasKey

theorem filled_of_allAccepted {rename : Mention → Option (List Char)} {parts : List Part}
    (accepted : AllAccepted catalog parts) : Filled rename parts := by
  intro mention member isEmpty
  rw [(accepted mention (mem_mentionsOf_iff.2 member)).1] at isEmpty
  cases isEmpty

/-- The references of sturdy code stay in place, and the new code is sturdy. -/
theorem Sturdy.pointed (sturdy : Sturdy catalog target code) (noTick : '`' ∉ target.name.toList)
    (accepted : AllAccepted catalog (parts catalog code)) (table : Option (List Char)) :
    InPlace (pointed? target table) catalog code ∧
      Sturdy catalog target (written (pointed? target table) (parts catalog code)) := by
  have unticked : Unticked (pointed? target table) (parts catalog code) := by
    intro mention name member named inside
    obtain ⟨-, rfl⟩ := pointed?_eq_some_iff.1 named
    exact noTick (List.mem_filter.1 inside).1
  have inPlace : InPlace (pointed? target table) catalog code :=
    (inPlace_iff (filled_of_allAccepted accepted) (sturdy.balanced table)).2
      ⟨unticked, sturdy.shut table⟩
  have same : ∀ other mention name written, pointed? target table mention = some name →
      pointed? target other (.backtick name) = some written → written = name := by
    intro other mention name written named again
    rw [(pointed?_eq_some_iff.1 named).2, (pointed?_eq_some_iff.1 again).2]
  refine ⟨inPlace, fun other => ?_, fun other => ?_⟩
  · rw [inPlace]
    exact (sturdy.balanced table).map_renamed (sturdy.balanced other) (same other)
  · rw [inPlace]
    exact (sturdy.shut table).map_renamed (sturdy.shut other) (same other)

/-- **The tables of sturdy code resolve after references were pointed at an entity with a key**, if
they did before. -/
theorem Sturdy.tablesResolve (sturdy : Sturdy catalog target code)
    (member : target ∈ catalog.entities) (hasKey : target.key ≠ [])
    (noTick : '`' ∉ target.name.toList) (resolve : TablesResolve catalog code)
    (table : Option (List Char)) :
    TablesResolve catalog (written (pointed? target table) (parts catalog code)) := by
  obtain ⟨some, accepted⟩ := tablesResolve_iff.1 resolve
  obtain ⟨inPlace, -⟩ := sturdy.pointed noTick accepted table
  rw [tablesResolve_iff, inPlace]
  refine ⟨?_, allAccepted_map_pointed member hasKey accepted table⟩
  rw [mentionsOf_map_renamed]
  simpa using some

/-! ## Plain names -/

/-- The key of a bare name has no quotes. -/
theorem isUnquoted_keyOf_of_bare {name : List Char}
    (bare : ∀ symbol ∈ name, isBareSymbol symbol = true) : IsUnquoted (keyOf name) := by
  intro lowered member
  obtain ⟨symbol, inName, isLowered⟩ := List.mem_flatMap.1 member
  have isBare := bare symbol (List.mem_filter.1 inName).1
  have small : symbol.toNat ∈ List.range 128 := by
    simp only [isBareSymbol, Char.le_def, UInt32.le_iff_toNat_le, Bool.or_eq_true,
      Bool.and_eq_true, decide_eq_true_eq] at isBare
    rw [List.mem_range]
    rcases isBare with ((isSmall | isCapital) | isDigit) | rfl
    · exact Nat.lt_of_le_of_lt isSmall.2 (by decide)
    · exact Nat.lt_of_le_of_lt isCapital.2 (by decide)
    · exact Nat.lt_of_le_of_lt isDigit.2 (by decide)
    · decide
  have checked : ∀ code ∈ List.range 128, isBareSymbol (Char.ofNat code) = true →
      (Text.lowerSymbol (Char.ofNat code)).all (fun lowered =>
        lowered ≠ '`' && lowered ≠ '"' && lowered ≠ '\'') = true := by
    decide +kernel
  rw [← Char.ofNat_toNat symbol] at isBare isLowered
  have apart := List.all_eq_true.1 (checked _ small isBare) lowered isLowered
  simpa [and_assoc] using apart

/-- What means an entity with a plain name has no quotes. -/
theorem isUnquoted_of_isAccepted (plain : catalog.IsPlain) {mention : Mention}
    (accepted : IsAccepted catalog mention) : IsUnquoted mention.identifier := by
  obtain ⟨entity, meant⟩ := Option.isSome_iff_exists.1 accepted.2
  obtain ⟨member, sameKey, -⟩ := Catalog.of_resolve? meant
  have ofKey : IsUnquoted (keyOf mention.identifier) := by
    rw [← sameKey, ← keyOf_shortName]
    exact isUnquoted_keyOf_of_bare (plain entity member).2
  -- A quote counts in a key and is its own lower case.
  have inKey : ∀ quote, countsInKey quote = true → Text.lowerSymbol quote = [quote] →
      quote ∈ mention.identifier → quote ∈ keyOf mention.identifier := by
    intro quote counts same inside
    refine List.mem_flatMap.2 ⟨quote, List.mem_filter.2 ⟨inside, counts⟩, ?_⟩
    rw [same]
    exact List.mem_singleton.2 rfl
  intro symbol inside
  refine ⟨?_, ?_, ?_⟩
  · rintro rfl
    exact (ofKey _ (inKey _ (by decide) rfl inside)).1 rfl
  · rintro rfl
    exact (ofKey _ (inKey _ (by decide) rfl inside)).2.1 rfl
  · rintro rfl
    exact (ofKey _ (inKey _ (by decide) rfl inside)).2.2 rfl

/-- The table of an entity with a plain name leaves the same quotes open as any accepted mention. -/
theorem balanced_pointed (plain : catalog.IsPlain) (member : target ∈ catalog.entities)
    (accepted : AllAccepted catalog (parts catalog code)) (table : Option (List Char)) :
    Balanced (pointed? target table) .outside (parts catalog code) := by
  apply balanced_of_isUnquoted
  intro mention name inParts named
  rw [(pointed?_eq_some_iff.1 named).2]
  exact ⟨isUnquoted_of_isAccepted plain (accepted mention (mem_mentionsOf_iff.2 inParts)),
    isUnquoted_of_bare (plain target member).2⟩

/-- For plain names code without a mark that stands alone is sturdy. -/
theorem sturdy_of_notMem (plain : catalog.IsPlain) (member : target ∈ catalog.entities)
    (accepted : AllAccepted catalog (parts catalog code))
    (unmarked : ∀ mark, isMark mark = true → Part.kept [mark] ∉ parts catalog code) :
    Sturdy catalog target code where
  balanced := balanced_pointed plain member accepted
  shut := fun _ => shut_of_notMem unmarked

/-- **For plain names the tables of the new code resolve exactly where no open backtick does
harm**, if those of the old code do. -/
theorem tablesResolve_pointed_iff (plain : catalog.IsPlain) (member : target ∈ catalog.entities)
    (resolve : TablesResolve catalog code) (table : Option (List Char)) :
    TablesResolve catalog (written (pointed? target table) (parts catalog code)) ↔
      Tame (pointed? target table) catalog (parts catalog code) := by
  obtain ⟨some, accepted⟩ := tablesResolve_iff.1 resolve
  have plainly : WrittenPlainly (pointed? target table) catalog .outside (parts catalog code) := by
    refine ⟨filled_of_allAccepted accepted, ?_, balanced_pointed plain member accepted table⟩
    intro mention name inParts named
    rw [(pointed?_eq_some_iff.1 named).2]
    exact plain.isPlainName member
  rw [tablesResolve_iff, allAccepted_written_iff plainly
    (allAccepted_map_pointed member (plain target member).1 accepted table)]
  exact and_iff_right (mentionsOf_written_ne_nil plainly some)

end Executor

end Inquiry
