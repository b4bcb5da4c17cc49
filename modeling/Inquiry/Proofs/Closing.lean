import Inquiry.Proofs.Balance
import Mathlib.Data.List.Forall2

/-!
# Backticks that a table closes

A backtick may stand directly in front of the mark of tables and never be
closed.  Such a backtick is kept as it is, and there is no other one behind it.
If a table is written behind it, the table closes it: everything up to the
table is swallowed by one name, the name of the table is read bare, and the
backtick after that name stands where the open one stood before
(`OpenTick.closed`).  From there on the code is read as it was, or the same
happens once more.

So a name that is swallowed outside a literal is one mention more than there
was (`OpenTick.length_mentionsOf`).  Inside a literal it is none, and as many
mentions are read as there were, if the code goes on as it was.  Together this
tells when renaming keeps all mentions (`isReadAs_of_steady`,
`steady_of_length_le`).
-/

set_option autoImplicit false

namespace Inquiry.Code

open Inquiry.Text

variable {rename : Mention → Option (List Char)} {catalog : Catalog}

/-! ## Plain names -/

/-- A name that is read as a table name wherever it stands bare. -/
def IsPlainName (catalog : Catalog) (name : List Char) : Prop :=
  name ≠ [] ∧ (∀ symbol ∈ name, isBareSymbol symbol = true) ∧ isTableName catalog name = true

theorem IsPlainName.notMem {name : List Char} (plain : IsPlainName catalog name) {mark : Char}
    (marked : isMark mark = true) : mark ∉ name :=
  (isUnquoted_of_bare plain.2.1).notMem marked

/-- The only mark in a plain name between backticks is the backtick. -/
theorem IsPlainName.eq_of_mem {name : List Char} (plain : IsPlainName catalog name) {mark : Char}
    (marked : isMark mark = true) (member : mark ∈ (Mention.backtick name).characters) :
    mark = '`' := by
  have notInTable := isUnquoted_tableMark.notMem marked
  simpa [Mention.characters, notInTable, plain.notMem marked] using member

theorem IsPlainName.counts {name : List Char} (plain : IsPlainName catalog name)
    (expected : Bool) : counts catalog expected (.bare name) = true := by
  simp [Code.counts, plain.1, plain.2.2]

/-- What is written for the mentions of parts: a name for every empty one, plain names only, and
the quotes stay balanced. -/
structure WrittenPlainly (rename : Mention → Option (List Char)) (catalog : Catalog)
    (quoting : Quoting) (parts : List Part) : Prop where
  filled : Filled rename parts
  plain : ∀ mention name, .table mention ∈ parts → rename mention = some name →
    IsPlainName catalog name
  balanced : Balanced rename quoting parts

namespace WrittenPlainly

variable {quoting : Quoting} {parts front back : List Part} {part : Part}

theorem unticked (plainly : WrittenPlainly rename catalog quoting parts) :
    Unticked rename parts := fun mention name member named =>
  (plainly.plain mention name member named).notMem rfl

theorem before (plainly : WrittenPlainly rename catalog quoting (front ++ back)) :
    WrittenPlainly rename catalog quoting front where
  filled := fun mention member => plainly.filled mention (List.mem_append_left _ member)
  plain := fun mention name member => plainly.plain mention name (List.mem_append_left _ member)
  balanced := fun earlier mention later name cut =>
    plainly.balanced earlier mention (later ++ back) name (by rw [cut]; simp)

theorem behind (plainly : WrittenPlainly rename catalog quoting (front ++ part :: back)) :
    WrittenPlainly rename catalog
      ((quoting.after (front.flatMap Part.characters)).after part.characters) back where
  filled := fun mention member => plainly.filled mention
    (List.mem_append_right _ (List.mem_cons_of_mem _ member))
  plain := fun mention name member => plainly.plain mention name
    (List.mem_append_right _ (List.mem_cons_of_mem _ member))
  balanced := by
    intro earlier mention later name cut named
    have whole := plainly.balanced (front ++ part :: earlier) mention later name
      (by rw [cut]; simp) named
    rw [List.flatMap_append, List.flatMap_cons, Quoting.after_append, Quoting.after_append] at whole
    exact whole

/-- A mark that is closed by a table among these is a backtick. -/
theorem eq_of_closed (plainly : WrittenPlainly rename catalog quoting parts) {mark : Char}
    (marked : isMark mark = true) {mention : Mention} {name : List Char}
    (member : .table mention ∈ parts) (named : rename mention = some name)
    (closes : mark ∈ (Mention.backtick name).characters) : mark = '`' :=
  (plainly.plain mention name member named).eq_of_mem marked closes

end WrittenPlainly

/-! ## The first table that is written -/

/-- The parts behind the first one for which a table is written. -/
def behindWritten (rename : Mention → Option (List Char)) : List Part → List Part
  | [] => []
  | .kept _ :: rest => behindWritten rename rest
  | .table mention :: rest => if (rename mention).isSome then rest else behindWritten rename rest

theorem written_of_none {parts : List Part}
    (none : ∀ mention, .table mention ∈ parts → rename mention = none) :
    written rename parts = parts.flatMap Part.characters := by
  induction parts with
  | nil => rfl
  | cons part rest ih =>
      have ofRest := ih fun mention member => none mention (List.mem_cons_of_mem _ member)
      have kept : part.renamed rename = part := by
        cases part with
        | kept characters => rfl
        | table mention => rw [Part.renamed, none mention (List.mem_cons_self ..)]
      rw [written_cons, kept, ofRest, List.flatMap_cons]

/-- Among parts for some of which a table is written there is a first one. -/
theorem exists_first_written {parts : List Part} {mention : Mention} {name : List Char}
    (member : .table mention ∈ parts) (named : rename mention = some name) :
    ∃ between first newName, parts = between ++ .table first :: behindWritten rename parts ∧
      rename first = some newName ∧
      ∀ mention, .table mention ∈ between → rename mention = none := by
  induction parts with
  | nil => cases member
  | cons part rest ih =>
      cases part with
      | kept characters =>
          rcases List.mem_cons.1 member with isFirst | member
          · cases isFirst
          · obtain ⟨between, first, newName, cut, renamed, none⟩ := ih member
            refine ⟨.kept characters :: between, first, newName, ?_, renamed, ?_⟩
            · rw [behindWritten, List.cons_append, ← cut]
            · intro mention member
              rcases List.mem_cons.1 member with isFirst | member
              · cases isFirst
              · exact none mention member
      | table first =>
          cases renamed : rename first with
          | some newName =>
              refine ⟨[], first, newName, ?_, renamed, fun mention member => by cases member⟩
              simp [behindWritten, renamed]
          | none =>
              rcases List.mem_cons.1 member with isFirst | member
              · cases isFirst
                rw [renamed] at named
                cases named
              · obtain ⟨between, second, newName, cut, renamedSecond, none⟩ := ih member
                refine ⟨.table first :: between, second, newName, ?_, renamedSecond, ?_⟩
                · rw [behindWritten, renamed, if_neg (by decide), List.cons_append, ← cut]
                · intro mention member
                  rcases List.mem_cons.1 member with isFirst | member
                  · cases isFirst
                    exact renamed
                  · exact none mention member

/-- The parts up to the first table that is written hold no mention, if all tables are written. -/
theorem mentionsOf_eq_nil {between : List Part}
    (named : ∀ mention, .table mention ∈ between → (rename mention).isSome = true)
    (none : ∀ mention, .table mention ∈ between → rename mention = none) :
    mentionsOf between = [] := by
  apply List.eq_nil_iff_forall_not_mem.2
  intro mention member
  have isSome := named mention (mem_mentionsOf_iff.1 member)
  rw [none mention (mem_mentionsOf_iff.1 member)] at isSome
  cases isSome

theorem mem_of_mem_behindWritten {parts : List Part} {part : Part}
    (member : part ∈ behindWritten rename parts) : part ∈ parts := by
  fun_induction behindWritten rename parts with
  | case1 => exact member
  | case2 characters rest ih => exact List.mem_cons_of_mem _ (ih member)
  | case3 mention rest named => exact List.mem_cons_of_mem _ member
  | case4 mention rest unnamed ih => exact List.mem_cons_of_mem _ (ih member)

/-! ## Reading on behind an open backtick -/

/-- A backtick that does not stay open swallows what comes before the first table that is written,
and this begins with the mark of tables. -/
theorem exists_swallowed_of_closed {parts : List Part} (closed : ¬ StaysOpen rename '`' parts) :
    ∃ between first name swallowed,
      parts = between ++ .table first :: behindWritten rename parts ∧
      (∀ mention, .table mention ∈ between → rename mention = none) ∧
      rename first = some name ∧
      between.flatMap Part.characters = tableMark ++ swallowed ∧
      written rename parts = tableMark ++ (swallowed ++
        '`' :: (tableMark ++ (name ++ '`' :: written rename (behindWritten rename parts)))) := by
  simp only [StaysOpen, not_forall, not_not] at closed
  obtain ⟨begins, mention, name, member, named, -⟩ := closed
  obtain ⟨between, first, newName, cut, renamed, none⟩ := exists_first_written member named
  generalize behindWritten rename parts = back at cut ⊢
  subst cut
  have writes : written rename (between ++ .table first :: back) =
      between.flatMap Part.characters ++
        '`' :: (tableMark ++ (newName ++ '`' :: written rename back)) := by
    rw [written_append, written_of_none none, written_cons]
    simp [Part.renamed, renamed, Part.characters, Mention.characters]
  rw [writes] at begins
  obtain ⟨swallowed, isSwallowed⟩ := isPrefix_of_isPrefix_append_cons (by decide) begins
  refine ⟨between, first, newName, swallowed, rfl, none, renamed, isSwallowed.symm, ?_⟩
  rw [writes, ← isSwallowed, List.append_assoc]

theorem Quoting.hides_step_mark {quoting : Quoting} {mark : Char} (marked : isMark mark = true)
    (shown : quoting.hides = false) : (quoting.step mark).hides = false := by
  cases quoting with
  | outside => rw [step_mark (isMark_iff.1 marked)]; rfl
  | quoted other =>
      rw [Quoting.step]
      split <;> rfl
  | literal => cases shown
  | escaped => cases shown

/-- Behind a name that is closed by the backtick in front of a plain name, the plain name is read
as a bare one. -/
theorem partsOf_of_closed {quoting : Quoting} {before swallowed name rest : List Char}
    (noTick : '`' ∉ swallowed) (plain : IsPlainName catalog name) (marked : quoting.IsMarked)
    (shown : (quoting.after (Mention.backtick swallowed).characters).hides = false) :
    partsOf catalog quoting (tokensFrom before
        ((Mention.backtick swallowed).characters ++ (tableMark ++ (name ++ '`' :: rest)))) =
      (Token.mention (.backtick swallowed) (expectsTable before)).part catalog quoting ::
        .table (.bare name) ::
          partsOf catalog (quoting.after (Mention.backtick swallowed).characters)
            (tokensFrom ((Mention.bare name).characters.reverse ++
              ((Mention.backtick swallowed).characters.reverse ++ before)) ('`' :: rest)) := by
  have ofSwallowed : mentionAt? before.head?
      ((Mention.backtick swallowed).characters ++ (tableMark ++ (name ++ '`' :: rest))) =
        some (.backtick swallowed, tableMark ++ (name ++ '`' :: rest)) :=
    mentionAt?_eq_some_iff.2 ⟨rfl, noTick⟩
  have first : ((Mention.backtick swallowed).characters.reverse ++ before).head? = some '`' := by
    simp [Mention.characters]
  have stands : (Mention.bare name).StandsBetween
      ((Mention.backtick swallowed).characters.reverse ++ before).head? ('`' :: rest) := by
    refine ⟨?_, plain.2.1, ?_, fun isEmpty => absurd isEmpty plain.1⟩
    · rw [first]
      rfl
    · intro symbol isHead
      cases isHead
      rfl
  have ofName : mentionAt? ((Mention.backtick swallowed).characters.reverse ++ before).head?
      (tableMark ++ (name ++ '`' :: rest)) = some (.bare name, '`' :: rest) :=
    mentionAt?_eq_some_iff.2 ⟨by simp [Mention.characters], stands⟩
  have stays := Quoting.after_characters shown (marked.after _) stands
    (isUnquoted_of_bare plain.2.1)
  rw [tokensFrom_of_mention ofSwallowed, partsOf_mention, tokensFrom_of_mention ofName,
    partsOf_mention, stays, part_of_counted shown (plain.counts _)]

/-- Parts behind a backtick that was not closed, and where the backtick is read in the renamed
code: the quotes that are open in front of it, and the code there. -/
structure OpenTick (rename : Mention → Option (List Char)) (catalog : Catalog) (quoting : Quoting)
    (before later : List Char) (parts : List Part) : Prop where
  cut : partsOf catalog (quoting.step '`') (tokensFrom before (parts.flatMap Part.characters)) =
    parts
  noTick : '`' ∉ parts.flatMap Part.characters
  plainly : WrittenPlainly rename catalog (quoting.step '`') parts
  alike : Alike before ('`' :: later) (parts.flatMap Part.characters)
  marked : quoting.IsMarked

/-- The parts of the renamed code from an open backtick on. -/
def reread (rename : Mention → Option (List Char)) (catalog : Catalog) (quoting : Quoting)
    (later : List Char) (parts : List Part) : List Part :=
  partsOf catalog quoting (tokensFrom later ('`' :: written rename parts))

namespace OpenTick

variable {quoting : Quoting} {before later : List Char} {parts : List Part}

/-- No other mark behind an open backtick is closed by a table. -/
theorem undisturbed (opened : OpenTick rename catalog quoting before later parts) :
    Undisturbed rename (quoting.step '`') parts [] where
  filled := opened.plainly.filled
  unticked := opened.plainly.unticked
  balanced := opened.plainly.balanced
  shut := by
    intro earlier mark rest cut marked begins mention name member named closes
    rw [List.append_nil] at member
    have plainly := opened.plainly
    rw [cut] at plainly
    obtain rfl := plainly.behind.eq_of_closed marked member named closes
    apply opened.noTick
    rw [cut]
    simp [Part.characters]

/-- **Behind a backtick that stays open the code is read as it was.** -/
theorem staysOpen (opened : OpenTick rename catalog quoting before later parts)
    (stays : StaysOpen rename '`' parts) :
    reread rename catalog quoting later parts =
      .kept ['`'] :: parts.map (Part.renamed rename) := by
  have none : mentionAt? later.head? ('`' :: written rename parts) = none := by
    rw [mentionAt?_eq_none_iff, if_pos (by decide)]
    intro begins
    exact notMem_written opened.noTick (stays begins)
  have cut : partsOf catalog (quoting.step '`')
      (tokensFrom before (parts.flatMap Part.characters)) = parts ++ [] := by
    rw [opened.cut, List.append_nil]
  have read := partsOf_written cut opened.undisturbed opened.alike
  rw [List.append_nil, written_nil, tokensFrom, partsOf_nil, List.append_nil] at read
  rw [reread, tokensFrom_of_none none, partsOf_plain, read]

/-- Behind a table that is written, the backtick after its name is an open one if the backtick in
front of it was taken for another. -/
theorem behind {between back : List Part} {first : Mention} {name : List Char}
    (opened : OpenTick rename catalog quoting before later (between ++ .table first :: back))
    (renamed : rename first = some name) (last : List Char) :
    OpenTick rename catalog
      (((quoting.step '`').after (between.flatMap Part.characters)).step '`')
      (first.characters.reverse ++ ((between.flatMap Part.characters).reverse ++ before))
      ((tableMark ++ name).reverse ++ '`' :: last) back := by
  obtain ⟨shown, stands⟩ := stands_of_table opened.cut
  have marked := opened.marked.after ('`' :: between.flatMap Part.characters ++ ['`'])
  simp only [List.cons_append, Quoting.after_cons, Quoting.after_append, Quoting.after_nil]
    at marked
  have plain := opened.plainly.plain first name
    (List.mem_append_right _ (List.mem_cons_self ..)) renamed
  have quotes := opened.plainly.balanced between first back name rfl renamed
  have ofName : (Mention.backtick name).characters = '`' :: ((tableMark ++ name) ++ ['`']) := rfl
  have stays := Quoting.after_of_isUnquoted (Quoting.hides_step_mark rfl shown) marked
    (isUnquoted_append isUnquoted_tableMark (isUnquoted_of_bare plain.2.1))
  rw [ofName, Quoting.after_cons, Quoting.after_append, stays, Quoting.after_cons,
    Quoting.after_nil] at quotes
  have alike : Alike _ ((Mention.backtick name).characters.reverse ++ last) _ :=
    .of_renamed stands name
  refine ⟨?_, fun inside => opened.noTick (by simp [inside]), ?_, ?_, marked⟩
  · rw [quotes]
    exact partsOf_resume_cons opened.cut
  · rw [quotes]
    exact opened.plainly.behind
  · have same : (Mention.backtick name).characters.reverse ++ last =
        '`' :: ((tableMark ++ name).reverse ++ '`' :: last) := by
      simp [ofName]
    rw [← same]
    exact alike

/-- What an open backtick swallows holds no backtick. -/
theorem exists_swallowed (opened : OpenTick rename catalog quoting before later parts)
    (closed : ¬ StaysOpen rename '`' parts) :
    ∃ between first name swallowed,
      parts = between ++ .table first :: behindWritten rename parts ∧
      (∀ mention, .table mention ∈ between → rename mention = none) ∧
      rename first = some name ∧
      between.flatMap Part.characters = tableMark ++ swallowed ∧ '`' ∉ swallowed ∧
      written rename parts = tableMark ++ (swallowed ++
        '`' :: (tableMark ++ (name ++ '`' :: written rename (behindWritten rename parts)))) := by
  obtain ⟨between, first, name, swallowed, cut, none, renamed, isSwallowed, writes⟩ :=
    exists_swallowed_of_closed closed
  refine ⟨between, first, name, swallowed, cut, none, renamed, isSwallowed, ?_, writes⟩
  intro inside
  apply opened.noTick
  rw [cut, List.flatMap_append, isSwallowed]
  simp [inside]

/-- **A backtick that does not stay open is closed by the first table that is written**, and the
backtick after the name of the table is an open one. -/
theorem closed (opened : OpenTick rename catalog quoting before later parts)
    (closed : ¬ StaysOpen rename '`' parts) :
    ∃ between first name swallowed quoting' before' later',
      parts = between ++ .table first :: behindWritten rename parts ∧
      (∀ mention, .table mention ∈ between → rename mention = none) ∧
      rename first = some name ∧
      between.flatMap Part.characters = tableMark ++ swallowed ∧
      reread rename catalog quoting later parts =
        (Token.mention (.backtick swallowed) (expectsTable later)).part catalog quoting ::
          .table (.bare name) ::
            reread rename catalog quoting' later' (behindWritten rename parts) ∧
      quoting'.hides = false ∧
      OpenTick rename catalog quoting' before' later' (behindWritten rename parts) := by
  obtain ⟨between, first, name, swallowed, cut, none, renamed, isSwallowed, noTick, writes⟩ :=
    opened.exists_swallowed closed
  rw [cut] at opened
  obtain ⟨shown, -⟩ := stands_of_table opened.cut
  have plain := opened.plainly.plain first name
    (List.mem_append_right _ (List.mem_cons_self ..)) renamed
  have ofSwallowed : quoting.after (Mention.backtick swallowed).characters =
      ((quoting.step '`').after (between.flatMap Part.characters)).step '`' := by
    rw [isSwallowed]
    simp [Mention.characters]
  have shownAfter : (quoting.after (Mention.backtick swallowed).characters).hides = false := by
    rw [ofSwallowed]
    exact Quoting.hides_step_mark rfl shown
  refine ⟨between, first, name, swallowed, quoting.after (Mention.backtick swallowed).characters,
    first.characters.reverse ++ ((between.flatMap Part.characters).reverse ++ before),
    (tableMark ++ name).reverse ++ ((Mention.backtick swallowed).characters.reverse ++ later),
    cut, none, renamed, isSwallowed, ?_, shownAfter, ?_⟩
  · have reads : '`' :: written rename parts = (Mention.backtick swallowed).characters ++
        (tableMark ++ (name ++ '`' :: written rename (behindWritten rename parts))) := by
      rw [writes]
      simp [Mention.characters]
    rw [reread, reads, partsOf_of_closed noTick plain opened.marked shownAfter]
    rfl
  · have last : (Mention.backtick swallowed).characters.reverse ++ later =
        '`' :: ((tableMark ++ swallowed).reverse ++ '`' :: later) := by
      simp [Mention.characters]
    rw [ofSwallowed, last]
    exact opened.behind renamed _

/-- Where all tables are written, a backtick that is closed swallows no mention but makes one of
what it swallows, unless a literal is open; and it leaves one more open behind the first table. -/
theorem mentionsOf_closed (opened : OpenTick rename catalog quoting before later parts)
    (named : ∀ mention, .table mention ∈ parts → (rename mention).isSome = true)
    (closed : ¬ StaysOpen rename '`' parts) :
    ∃ first name swallowed quoting' before' later',
      mentionsOf parts = first :: mentionsOf (behindWritten rename parts) ∧
      rename first = some name ∧
      mentionsOf (reread rename catalog quoting later parts) =
        (if quoting.hides then [] else [.backtick swallowed]) ++ .bare name ::
          mentionsOf (reread rename catalog quoting' later' (behindWritten rename parts)) ∧
      quoting'.hides = false ∧
      OpenTick rename catalog quoting' before' later' (behindWritten rename parts) := by
  obtain ⟨between, first, name, swallowed, quoting', before', later', cut, none, renamed, -,
    read, shown, opened'⟩ := opened.closed closed
  have noneBetween : mentionsOf between = [] := mentionsOf_eq_nil (fun mention member =>
    named mention (by rw [cut]; exact List.mem_append_left _ member)) none
  refine ⟨first, name, swallowed, quoting', before', later', ?_, renamed, ?_, shown, opened'⟩
  · rw [congrArg mentionsOf cut, mentionsOf_append, noneBetween, List.nil_append,
      mentionsOf_table]
  · rw [read]
    cases hidden : quoting.hides with
    | true =>
        rw [part_of_uncounted (.inl hidden), if_pos rfl]
        rfl
    | false =>
        rw [part_of_counted hidden rfl, if_neg Bool.false_ne_true]
        rfl

/-- **No mention is lost behind an open backtick outside literals, and there is one more if the
backtick is closed.**

The induction is on how many mentions there are: a backtick that is closed swallows one name, and
leaves an open backtick in front of fewer mentions. -/
theorem length_mentionsOf (opened : OpenTick rename catalog quoting before later parts)
    (named : ∀ mention, .table mention ∈ parts → (rename mention).isSome = true)
    (shown : quoting.hides = false) :
    (mentionsOf parts).length ≤ (mentionsOf (reread rename catalog quoting later parts)).length ∧
      (¬ StaysOpen rename '`' parts →
        (mentionsOf parts).length <
          (mentionsOf (reread rename catalog quoting later parts)).length) := by
  induction total : (mentionsOf parts).length using Nat.strongRecOn
    generalizing parts quoting before later with
  | ind total' ih =>
    by_cases stays : StaysOpen rename '`' parts
    · rw [opened.staysOpen stays, mentionsOf_kept, mentionsOf_map_renamed, List.length_map, total]
      exact ⟨Nat.le_refl _, fun closed => absurd stays closed⟩
    · obtain ⟨first, name, swallowed, quoting', before', later', proposed, -, again, shown',
        opened'⟩ := opened.mentionsOf_closed named stays
      rw [proposed, List.length_cons] at total
      have ofBehind := (ih _ (by omega) opened' (fun mention member => named mention
        (mem_of_mem_behindWritten member)) shown' rfl).1
      rw [again, shown, List.length_append, List.length_cons]
      simp only [Bool.false_eq_true, if_false, List.length_singleton]
      omega

end OpenTick

/-! ## Open backticks in code -/

section InCode

variable {code : List Char} {earlier later : List Part}

/-- Parts in front of the last open backtick are undisturbed, if the names are plain. -/
theorem WrittenPlainly.undisturbed (cut : parts catalog code = earlier ++ .kept ['`'] :: later)
    (plainly : WrittenPlainly rename catalog .outside (parts catalog code)) :
    Undisturbed rename .outside earlier (.kept ['`'] :: later) := by
  rw [cut] at plainly
  refine ⟨plainly.before.filled, plainly.before.unticked, plainly.before.balanced, ?_⟩
  intro front mark back inEarlier marked begins mention name member named closes
  have whole : parts catalog code = front ++ .kept [mark] :: (back ++ .kept ['`'] :: later) := by
    rw [cut, inEarlier]
    simp
  rw [← cut, whole] at plainly
  obtain rfl := plainly.behind.eq_of_closed marked member named closes
  -- The backtick that is kept after this one would have closed it in the code as it was.
  apply notMem_of_kept whole rfl (isPrefix_of_isPrefix_written (by decide) begins)
  simp [Part.characters]

/-- **A backtick in code that a table closes is an open one**, and up to it the code is read as it
was. -/
theorem exists_openTick (cut : parts catalog code = earlier ++ .kept ['`'] :: later)
    (plainly : WrittenPlainly rename catalog .outside (parts catalog code))
    (closed : ¬ StaysOpen rename '`' later) :
    ∃ before before', OpenTick rename catalog
        (Quoting.outside.after (earlier.flatMap Part.characters)) before before' later ∧
      parts catalog (written rename (parts catalog code)) =
        earlier.map (Part.renamed rename) ++
          reread rename catalog (Quoting.outside.after (earlier.flatMap Part.characters)) before'
            later := by
  simp only [StaysOpen, not_forall] at closed
  obtain ⟨begins, -⟩ := closed
  have read := partsOf_written cut (plainly.undisturbed cut) (.refl [] code)
  rw [List.append_nil] at read
  have noWord : ∀ text : List Char, wordBefore ('`' :: text) = [] := fun text => by
    rw [Alike.wordBefore_cons, if_neg (by decide), if_neg (by decide)]
  refine ⟨_, (written rename earlier).reverse, ⟨partsOf_resume_cons cut, ?_, ?_,
    ⟨.inl rfl, .inr (noWord _)⟩, Quoting.isMarked_after _⟩, ?_⟩
  · exact notMem_of_kept cut rfl (isPrefix_of_isPrefix_written (by decide) begins)
  · rw [cut] at plainly
    exact plainly.behind
  · rw [parts, tokens, cut, read]
    rfl

/-- Among plain names references stay in place where no open mark is closed. -/
theorem WrittenPlainly.inPlace
    (plainly : WrittenPlainly rename catalog .outside (parts catalog code))
    (shut : Shut rename (parts catalog code)) : InPlace rename catalog code :=
  (inPlace_iff plainly.filled plainly.balanced).2 ⟨plainly.unticked, shut⟩

/-- Among plain names, a mark that is closed by a table is an open backtick. -/
theorem exists_closed_of_not_shut
    (plainly : WrittenPlainly rename catalog .outside (parts catalog code))
    (notShut : ¬ Shut rename (parts catalog code)) :
    ∃ earlier later, parts catalog code = earlier ++ .kept ['`'] :: later ∧
      ¬ StaysOpen rename '`' later := by
  simp only [Shut, not_forall] at notShut
  obtain ⟨earlier, mark, later, cut, marked, closed⟩ := notShut
  have closes := closed
  simp only [StaysOpen, not_forall, not_not] at closes
  obtain ⟨-, mention, name, member, named, closes⟩ := closes
  rw [cut] at plainly
  obtain rfl := plainly.behind.eq_of_closed marked member named closes
  exact ⟨earlier, later, cut, closed⟩

/-- **A mark that is closed by a table makes the table a bare name**, if its name is plain. -/
theorem exists_bare_of_not_shut
    (plainly : WrittenPlainly rename catalog .outside (parts catalog code))
    (notShut : ¬ Shut rename (parts catalog code)) :
    ∃ mention name, .table mention ∈ parts catalog code ∧ rename mention = some name ∧
      .table (.bare name) ∈ parts catalog (written rename (parts catalog code)) := by
  obtain ⟨earlier, later, cut, closed⟩ := exists_closed_of_not_shut plainly notShut
  obtain ⟨before, before', opened, reads⟩ := exists_openTick cut plainly closed
  obtain ⟨between, first, name, swallowed, quoting', _, later', whole, -, renamed, -, read, -, -⟩ :=
    opened.closed closed
  refine ⟨first, name, ?_, renamed, ?_⟩
  · rw [cut, whole]
    exact List.mem_append_right _ (List.mem_cons_of_mem _
      (List.mem_append_right _ (List.mem_cons_self ..)))
  · rw [reads, read]
    simp

/-! ## Mentions that are kept -/

/-- What a mention is read as in renamed code: itself, renamed, or its new name, standing bare. -/
def Mention.IsReadAs (rename : Mention → Option (List Char)) (mention again : Mention) : Prop :=
  again = mention.renamed rename ∨ ∃ name, rename mention = some name ∧ again = .bare name

theorem isReadAs_map_renamed (mentions : List Mention) :
    List.Forall₂ (Mention.IsReadAs rename) mentions (mentions.map (Mention.renamed rename)) := by
  rw [List.forall₂_map_right_iff, List.forall₂_same]
  intro mention _
  exact .inl rfl

/-- No open backtick changes how many mentions are read: it stays open, or it stands in a literal,
and the one behind the table that closes it stays open. -/
def Steady (rename : Mention → Option (List Char)) (parts : List Part) : Prop :=
  ∀ earlier later, parts = earlier ++ .kept ['`'] :: later →
    StaysOpen rename '`' later ∨
      (Quoting.outside.after (earlier.flatMap Part.characters)).hides = true ∧
        StaysOpen rename '`' (behindWritten rename later)

/-- Where the parts are steady, the mentions are kept, in their order. -/
theorem isReadAs_of_steady
    (plainly : WrittenPlainly rename catalog .outside (parts catalog code))
    (named : ∀ mention, .table mention ∈ parts catalog code → (rename mention).isSome = true)
    (steady : Steady rename (parts catalog code)) :
    List.Forall₂ (Mention.IsReadAs rename) (mentionsOf (parts catalog code))
      (mentionsOf (parts catalog (written rename (parts catalog code)))) := by
  by_cases shut : Shut rename (parts catalog code)
  · rw [plainly.inPlace shut, mentionsOf_map_renamed]
    exact isReadAs_map_renamed _
  · obtain ⟨earlier, later, cut, closed⟩ := exists_closed_of_not_shut plainly shut
    obtain ⟨hidden, staysOpen⟩ := (steady earlier later cut).resolve_left closed
    obtain ⟨before, before', opened, reads⟩ := exists_openTick cut plainly closed
    have namedLater : ∀ mention, .table mention ∈ later → (rename mention).isSome = true := by
      intro mention member
      apply named mention
      rw [cut]
      exact List.mem_append_right _ (List.mem_cons_of_mem _ member)
    obtain ⟨first, name, swallowed, quoting', _, later', proposed, renamed, again, -, opened'⟩ :=
      opened.mentionsOf_closed namedLater closed
    rw [reads, congrArg mentionsOf cut, mentionsOf_append, mentionsOf_append, mentionsOf_kept,
      mentionsOf_map_renamed, proposed, again, hidden, if_pos rfl, List.nil_append,
      opened'.staysOpen staysOpen, mentionsOf_kept, mentionsOf_map_renamed]
    exact List.rel_append (isReadAs_map_renamed _)
      (.cons (.inr ⟨name, renamed, rfl⟩) (isReadAs_map_renamed _))

/-- Where the parts are not steady, there are more mentions than before. -/
theorem steady_of_length_le
    (plainly : WrittenPlainly rename catalog .outside (parts catalog code))
    (named : ∀ mention, .table mention ∈ parts catalog code → (rename mention).isSome = true)
    (noMore : (mentionsOf (parts catalog (written rename (parts catalog code)))).length ≤
      (mentionsOf (parts catalog code)).length) :
    Steady rename (parts catalog code) := by
  intro earlier later cut
  by_contra unsteady
  rw [not_or, not_and] at unsteady
  obtain ⟨closed, opensAgain⟩ := unsteady
  obtain ⟨before, before', opened, reads⟩ := exists_openTick cut plainly closed
  have namedLater : ∀ mention, .table mention ∈ later → (rename mention).isSome = true := by
    intro mention member
    apply named mention
    rw [cut]
    exact List.mem_append_right _ (List.mem_cons_of_mem _ member)
  rw [reads, congrArg mentionsOf cut, mentionsOf_append, mentionsOf_append, mentionsOf_kept,
    mentionsOf_map_renamed, List.length_append, List.length_append, List.length_map] at noMore
  cases hidden : (Quoting.outside.after (earlier.flatMap Part.characters)).hides with
  | false =>
      have more := (opened.length_mentionsOf namedLater hidden).2 closed
      omega
  | true =>
      obtain ⟨first, name, swallowed, quoting', _, later', proposed, -, again, shown, opened'⟩ :=
        opened.mentionsOf_closed namedLater closed
      have more := (opened'.length_mentionsOf (fun mention member =>
        namedLater mention (mem_of_mem_behindWritten member)) shown).2 (opensAgain hidden)
      rw [proposed, again, hidden, if_pos rfl, List.nil_append, List.length_cons,
        List.length_cons] at noMore
      omega

end InCode

end Inquiry.Code
