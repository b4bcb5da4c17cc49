import Inquiry.Proofs.Outcomes
import Inquiry.Proofs.Parts
import Inquiry.Proofs.Repair
import Mathlib.Data.List.DropRight

/-!
# Table names that read back

A catalog takes every list of entities whose names are not blank and whose keys
differ.  Keys see less than tables do, so the tables differ too, and they do so
whatever the case of their letters is (`Catalog.toLower_tableName_ne`).

The table of an entity is written between backticks, and both the table and
what is written should lead back to the entity (`Catalog.ReadsBack`).  That is
so for ordinary names, and three kinds of name are exceptions.  A name made of
hyphens and underscores has no key, and an empty key means no entity.  A
backtick in a name ends what is written too early.  A double quote at the end
is trimmed, because a table may be given in quotes.  These are the only ones
(`Catalog.readsBack_iff`).
-/

set_option autoImplicit false

namespace Inquiry

open Inquiry.Text

/-! ## Case -/

/-- Lowering from A to Z changes nothing but capitals. -/
theorem toLower_eq_or_capital (symbol : Char) :
    symbol.toLower = symbol ∨ symbol.toNat ∈ List.range' 65 26 := by
  by_cases capital : symbol.val ≥ 'A'.val ∧ symbol.val ≤ 'Z'.val
  · right
    rw [List.mem_range'_1]
    have low : 65 ≤ symbol.val.toNat := UInt32.le_iff_toNat_le.1 capital.1
    have high : symbol.val.toNat ≤ 90 := UInt32.le_iff_toNat_le.1 capital.2
    exact ⟨low, by show symbol.val.toNat < 91; omega⟩
  · exact .inl (dif_neg capital)

/-- What a key makes of a character does not depend on its case. -/
theorem keyOf_toLower_singleton (symbol : Char) : keyOf [symbol.toLower] = keyOf [symbol] := by
  rcases toLower_eq_or_capital symbol with same | capital
  · rw [same]
  · have checked : ∀ code ∈ List.range' 65 26,
        keyOf [(Char.ofNat code).toLower] = keyOf [Char.ofNat code] := by
      decide
    rw [← Char.ofNat_toNat symbol]
    exact checked _ capital

/-- A key does not depend on case. -/
theorem keyOf_map_toLower (text : List Char) : keyOf (text.map Char.toLower) = keyOf text := by
  induction text with
  | nil => rfl
  | cons symbol rest ih =>
      have split : ∀ (first : Char) (later : List Char),
          keyOf (first :: later) = keyOf [first] ++ keyOf later := fun first later =>
        keyOf_append [first] later
      rw [List.map_cons, split, split symbol, ih, keyOf_toLower_singleton]

/-! ## Tables -/

theorem toList_tableName (entity : Entity) :
    entity.tableName.toList = tableMark ++ entity.shortName := String.toList_ofList

theorem toList_quotedTable (table : String) :
    (quotedTable table).toList = '`' :: table.toList ++ ['`'] := String.toList_ofList

/-- What is written for an entity is a mention between backticks. -/
theorem toList_quotedTable_tableName (entity : Entity) :
    (quotedTable entity.tableName).toList =
      (Code.Mention.backtick entity.shortName).characters := by
  rw [toList_quotedTable, toList_tableName]
  rfl

namespace Catalog

/-- The tables of different entities differ, even in lower case. -/
theorem toLower_tableName_ne {catalog : Catalog} :
    catalog.entities.Pairwise fun first second =>
      first.tableName.toLower ≠ second.tableName.toLower := by
  refine catalog.distinct.imp fun apart same => apart ?_
  have sameLetters := congrArg String.toList same
  have inLower (entity : Entity) : entity.tableName.toLower.toList =
      tableMark.map Char.toLower ++ entity.shortName.map Char.toLower := by
    have mapped : entity.tableName.toLower = entity.tableName.map Char.toLower := rfl
    rw [mapped, String.toList_map, toList_tableName, List.map_append]
  rw [inLower, inLower] at sameLetters
  have sameKeys := congrArg keyOf (List.append_cancel_left sameLetters)
  simpa only [keyOf_map_toLower, keyOf_shortName] using sameKeys

/-! ## Building -/

theorem perm_of_add {catalog next : Catalog} {entity : Entity}
    (added : catalog.add entity = .ok next) :
    next.entities.Perm (entity.trimmed :: catalog.entities) := by
  rw [add] at added
  split at added
  · cases added
  · split at added
    · cases added
      exact perm_place _ _
    · cases added

theorem perm_of_foldlM_add {given : List Entity} {catalog last : Catalog}
    (built : given.foldlM add catalog = .ok last) :
    last.entities.Perm (given.map Entity.trimmed ++ catalog.entities) := by
  induction given generalizing catalog with
  | nil =>
      cases built
      exact .refl _
  | cons entity rest ih =>
      rw [List.foldlM_cons] at built
      obtain ⟨next, added, ofRest⟩ := bind_eq_ok_iff.1 built
      exact (ih ofRest).trans (((perm_of_add added).append_left _).trans List.perm_middle)

/-- A catalog holds the entities that it was built from, their names trimmed. -/
theorem perm_of_ofEntities {given : List Entity} {catalog : Catalog}
    (built : ofEntities given = .ok catalog) :
    catalog.entities.Perm (given.map Entity.trimmed) := by
  have whole := perm_of_foldlM_add built
  simpa [empty] using whole

/-! ## Resolving -/

variable {catalog : Catalog} {entity : Entity}

/-- The name of an entity means the entity if it has a key. -/
theorem resolve?_name_iff (member : entity ∈ catalog.entities) :
    catalog.resolve? entity.name.toList = some entity ↔ entity.key ≠ [] := by
  constructor
  · intro found
    exact (of_resolve? found).2.2
  · exact resolve?_of_mem member rfl

/-- What is trimmed around the mark of tables and a name is trimmed from the end of the name. -/
theorem trimWhere_tableMark {drop : Char → Bool} (kept : tableMark.all (!drop ·) = true)
    (rest : List Char) :
    trimWhere drop (tableMark ++ rest) = tableMark ++ rest.rdropWhile drop := by
  have ofMark : ∀ symbol ∈ ['t', 'a', 'b'], drop symbol = false := fun symbol member => by
    simpa using List.all_eq_true.1 kept symbol member
  have first := ofMark 't' (by decide)
  simp only [tableMark, List.cons_append, List.nil_append]
  rw [trimWhere, trimStartWhere, List.dropWhile_cons_of_neg (by simp [first]),
    trimEndWhere_cons first, trimEndWhere_cons (ofMark 'a' (by decide)),
    trimEndWhere_cons (ofMark 'b' (by decide))]
  rfl

theorem trim_tableName (entity : Entity) :
    trim entity.tableName.toList = tableMark ++ entity.shortName := by
  have same := trim_withoutBlanks (tableMark ++ entity.name.toList)
  have ofMark : withoutBlanks tableMark = tableMark := by decide
  rw [withoutBlanks, List.filter_append] at same
  rw [withoutBlanks] at ofMark
  rw [ofMark] at same
  rw [toList_tableName]
  exact same

theorem trim_quotedTable (entity : Entity) :
    trim (quotedTable entity.tableName).toList =
      '`' :: (tableMark ++ entity.shortName ++ ['`']) := by
  have same := trim_withoutBlanks ('`' :: tableMark ++ entity.name.toList ++ ['`'])
  have inFront : withoutBlanks ('`' :: tableMark) = '`' :: tableMark := by decide
  have behind : withoutBlanks ['`'] = ['`'] := by decide
  rw [withoutBlanks, List.filter_append, List.filter_append] at same
  rw [withoutBlanks] at inFront behind
  rw [inFront, behind] at same
  rw [toList_quotedTable, toList_tableName]
  exact same

theorem rdropWhile_of_notMem {mark : Char} {text : List Char} (absent : mark ∉ text) :
    text.rdropWhile (· = mark) = text := by
  rw [List.rdropWhile_eq_self_iff]
  intro notEmpty isMark
  rw [decide_eq_true_eq] at isMark
  exact absent (isMark ▸ List.getLast_mem notEmpty)

theorem withoutMark_tableMark (rest : List Char) : withoutMark (tableMark ++ rest) = rest := by
  have found : tableMark.isPrefixOf? (tableMark ++ rest) = some rest :=
    Code.isPrefixOf?_eq_some_iff.2 rfl
  rw [withoutMark, found, Option.getD_some]

/-- The table of an entity means what the name without double quotes at its end means, if it holds
no backtick. -/
theorem resolveTable?_tableName (noTick : '`' ∉ entity.shortName) :
    catalog.resolveTable? entity.tableName =
      catalog.resolve? (entity.shortName.rdropWhile (· = '"')) := by
  rw [resolveTable?, trim_tableName, trimWhere_tableMark (by decide), rdropWhile_of_notMem noTick,
    trimWhere_tableMark (by decide)]
  exact congrArg catalog.resolve? (withoutMark_tableMark _)

/-- Backticks around the table do not change what it means. -/
theorem resolveTable?_quotedTable (noTick : '`' ∉ entity.shortName) :
    catalog.resolveTable? (quotedTable entity.tableName) =
      catalog.resolveTable? entity.tableName := by
  have unticked : trimWhere (· = '`') ('`' :: (tableMark ++ entity.shortName ++ ['`'])) =
      tableMark ++ entity.shortName := by
    have inFront : trimWhere (· = '`') ('`' :: (tableMark ++ entity.shortName ++ ['`'])) =
        trimWhere (· = '`') (tableMark ++ (entity.shortName ++ ['`'])) := by
      rw [← List.append_assoc]
      rfl
    rw [inFront, trimWhere_tableMark (by decide), List.rdropWhile_concat_pos _ _ _ (by decide),
      rdropWhile_of_notMem noTick]
  rw [resolveTable?_tableName noTick, resolveTable?, trim_quotedTable, unticked,
    trimWhere_tableMark (by decide)]
  exact congrArg catalog.resolve? (withoutMark_tableMark _)

/-- A name without the double quotes at its end means the entity if the name has a key and no
double quote at its end. -/
theorem resolve?_rdropWhile_iff (member : entity ∈ catalog.entities) :
    catalog.resolve? (entity.shortName.rdropWhile (· = '"')) = some entity ↔
      entity.key ≠ [] ∧ entity.shortName.getLast? ≠ some '"' := by
  constructor
  · intro found
    obtain ⟨-, sameKey, hasKey⟩ := of_resolve? found
    refine ⟨sameKey ▸ hasKey, ?_⟩
    intro isQuote
    obtain ⟨front, cut⟩ := List.getLast?_eq_some_iff.1 isQuote
    obtain ⟨dropped, whole⟩ := front.rdropWhile_prefix (· = '"')
    have longer := congrArg List.length sameKey
    rw [← keyOf_shortName, cut, List.rdropWhile_concat_pos _ _ _ (by decide), keyOf_append,
      List.length_append] at longer
    have ofFront := congrArg (fun text => (keyOf text).length) whole
    simp only [keyOf_append, List.length_append] at ofFront
    have ofQuote : (keyOf ['"']).length = 1 := rfl
    omega
  · rintro ⟨hasKey, noQuote⟩
    have whole : entity.shortName.rdropWhile (· = '"') = entity.shortName := by
      rw [List.rdropWhile_eq_self_iff]
      intro notEmpty isQuote
      rw [decide_eq_true_eq] at isQuote
      exact noQuote (by rw [List.getLast?_eq_some_getLast notEmpty, isQuote])
    rw [whole]
    exact resolve?_of_mem member (keyOf_shortName entity) hasKey

/-! ## Scanning -/

/-- A name between backticks at the start of code is a reference, and the only one if it is the
whole code. -/
theorem scan_backtick {identifier : List Char} (noTick : '`' ∉ identifier) (after : List Char) :
    ∃ later, Code.scan catalog ((Code.Mention.backtick identifier).characters ++ after) =
        ⟨⟨0, byteSize (Code.Mention.backtick identifier).characters⟩, .backtick identifier⟩ ::
          later ∧
      (after = [] → later = []) := by
  have found : Code.mentionAt? ([] : List Char).head?
      ((Code.Mention.backtick identifier).characters ++ after) =
        some (.backtick identifier, after) :=
    Code.mentionAt?_eq_some_iff.2 ⟨rfl, noTick⟩
  have outside : (Code.literalSpans
      ((Code.Mention.backtick identifier).characters ++ after)).any (·.holds 0) = false :=
    Code.holds_literalSpans [] (tableMark ++ identifier ++ ['`'] ++ after) (by decide)
  have first (stop : Nat) (expected : Bool) : Code.pieceOf catalog
      (Code.literalSpans ((Code.Mention.backtick identifier).characters ++ after)) ⟨0, stop⟩
      (.mention (.backtick identifier) expected) =
        .reference ⟨⟨0, stop⟩, .backtick identifier⟩ := by
    simp [Code.pieceOf, Code.counts, outside]
  rw [Code.scan, Code.pieces, Code.tokens, Code.tokensFrom_of_mention found]
  simp only [layOut, List.map_cons, first, List.filterMap_cons, Code.Piece.reference?, Nat.zero_add]
  refine ⟨_, rfl, ?_⟩
  rintro rfl
  rw [Code.tokensFrom]
  rfl

/-! ## Reading back -/

variable (catalog entity) in
/-- The name and the table of an entity, and what is written for it, lead back to the entity. -/
structure ReadsBack : Prop where
  byName : catalog.resolve? entity.name.toList = some entity
  byTable : catalog.resolveTable? entity.tableName = some entity
  byQuotedTable : catalog.resolveTable? (quotedTable entity.tableName) = some entity
  /-- What is written is one reference between backticks, as a whole, and means the entity. -/
  byReference : ∃ reference,
    Code.scan catalog (quotedTable entity.tableName).toList = [reference] ∧
      reference.mention.shape = .backtick ∧
      reference.span = ⟨0, byteSize (quotedTable entity.tableName).toList⟩ ∧
      reference.entity? catalog = some entity

/-- What is written for an entity is one reference as a whole only if it holds no other backtick. -/
theorem notMem_of_scan {reference : Code.Reference}
    (only : Code.scan catalog (quotedTable entity.tableName).toList = [reference])
    (whole : reference.span = ⟨0, byteSize (quotedTable entity.tableName).toList⟩) :
    '`' ∉ entity.shortName := by
  intro ticked
  obtain ⟨front, back, cut, noTick⟩ := List.eq_append_cons_of_mem ticked
  have written : (quotedTable entity.tableName).toList =
      (Code.Mention.backtick front).characters ++ (back ++ ['`']) := by
    simp [toList_quotedTable_tableName, Code.Mention.characters, cut]
  obtain ⟨later, scanned, -⟩ := @scan_backtick catalog front noTick (back ++ ['`'])
  rw [written, scanned] at only
  obtain ⟨rfl, -⟩ := List.cons.inj only
  have sameSize := congrArg Span.stop whole
  have positive := ('`').utf8Size_pos
  simp only [written, byteSize_append, byteSize] at sameSize
  omega

/-- **The table of an entity reads back exactly when the name of the entity has a key, holds no
backtick and does not end in a double quote.** -/
theorem readsBack_iff (member : entity ∈ catalog.entities) :
    catalog.ReadsBack entity ↔
      entity.key ≠ [] ∧ '`' ∉ entity.shortName ∧ entity.shortName.getLast? ≠ some '"' := by
  constructor
  · rintro ⟨byName, byTable, -, reference, only, -, whole, -⟩
    have noTick := notMem_of_scan only whole
    rw [resolveTable?_tableName noTick, resolve?_rdropWhile_iff member] at byTable
    exact ⟨byTable.1, noTick, byTable.2⟩
  · rintro ⟨hasKey, noTick, noQuote⟩
    have byTable : catalog.resolveTable? entity.tableName = some entity := by
      rw [resolveTable?_tableName noTick, resolve?_rdropWhile_iff member]
      exact ⟨hasKey, noQuote⟩
    refine ⟨(resolve?_name_iff member).2 hasKey, byTable, ?_, ?_⟩
    · rw [resolveTable?_quotedTable noTick]
      exact byTable
    · obtain ⟨later, scanned, alone⟩ := @scan_backtick catalog entity.shortName noTick []
      rw [alone rfl, List.append_nil] at scanned
      rw [toList_quotedTable_tableName]
      exact ⟨_, scanned, rfl, rfl, resolve?_of_mem member (keyOf_shortName entity) hasKey⟩

/-- **A catalog holds the entities that it was built from, each once; their tables differ in more
than case; and an entity reads back exactly when its name has a key, holds no backtick and does not
end in a double quote.** -/
theorem readsBack_of_ofEntities {given : List Entity} {catalog : Catalog}
    (built : ofEntities given = .ok catalog) :
    catalog.size = given.length ∧ catalog.entities.Perm (given.map Entity.trimmed) ∧
      (catalog.entities.Pairwise fun first second =>
        first.tableName.toLower ≠ second.tableName.toLower) ∧
      ∀ entity ∈ catalog.entities, catalog.ReadsBack entity ↔
        entity.key ≠ [] ∧ '`' ∉ entity.shortName ∧ entity.shortName.getLast? ≠ some '"' := by
  have sameEntities := perm_of_ofEntities built
  refine ⟨?_, sameEntities, toLower_tableName_ne, fun entity member => readsBack_iff member⟩
  rw [size, sameEntities.length_eq, List.length_map]

/-- Entities with ordinary names. -/
def plainEntities : List Entity :=
  [{ name := " Sales Order", fields := [] }, { name := "Customer", fields := [] }]

/-- Entities whose names have no key, hold a backtick or end in a double quote. -/
def oddEntities : List Entity :=
  [{ name := "-", fields := [] }, { name := "A`B", fields := [] },
    { name := "Disk 3\"", fields := [] }]

/-- The entities with ordinary names read back. -/
theorem readsBack_plainEntities :
    ∃ catalog, ofEntities plainEntities = .ok catalog ∧ catalog.size = 2 ∧
      ∀ entity ∈ catalog.entities, catalog.ReadsBack entity := by
  obtain ⟨catalog, built⟩ := exists_eq_ok_of_isOk
    (show (ofEntities plainEntities).isOk = true by decide +kernel)
  obtain ⟨sameSize, sameEntities, -, readsBack⟩ := readsBack_of_ofEntities built
  have plain : ∀ entity ∈ plainEntities.map Entity.trimmed,
      entity.key ≠ [] ∧ '`' ∉ entity.shortName ∧ entity.shortName.getLast? ≠ some '"' := by
    decide +kernel
  exact ⟨catalog, built, sameSize, fun entity member =>
    (readsBack entity member).2 (plain entity (sameEntities.mem_iff.1 member))⟩

/-- The other entities make up a catalog, and none of them reads back. -/
theorem not_readsBack_oddEntities :
    ∃ catalog, ofEntities oddEntities = .ok catalog ∧ catalog.size = 3 ∧
      ∀ entity ∈ catalog.entities, ¬ catalog.ReadsBack entity := by
  obtain ⟨catalog, built⟩ := exists_eq_ok_of_isOk
    (show (ofEntities oddEntities).isOk = true by decide +kernel)
  have sameEntities := perm_of_ofEntities built
  have odd : ∀ entity ∈ oddEntities.map Entity.trimmed,
      ¬(entity.key ≠ [] ∧ '`' ∉ entity.shortName ∧ entity.shortName.getLast? ≠ some '"') := by
    decide +kernel
  exact ⟨catalog, built, sameEntities.length_eq, fun entity member readsBack =>
    odd entity (sameEntities.mem_iff.1 member) ((readsBack_iff member).1 readsBack)⟩

end Catalog

end Inquiry
