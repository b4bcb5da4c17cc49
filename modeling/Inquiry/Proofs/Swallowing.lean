import Inquiry.Proofs.Preparation

/-!
# What a closed backtick swallows

A backtick that stands open directly in front of the mark of tables is closed
by the first table that is written behind it.  What stands between the two is
then read as a name (`OpenTick.closed`).  In a literal nobody looks at that
name.  Outside one it is a reference, and it should mean an entity like any
other.  The backtick behind the table stands open in its turn, and may be
closed by the next one.

So what can be said of all references of the renamed code is decided by the
texts that are swallowed outside literals (`SwallowsIn`), if the names are plain:
nothing else is read that was not written (`forall_written_iff`).  In particular
all references mean an entity where what is swallowed does (`Harmless`), for
each backtick that stood open (`Tame`, `allAccepted_written_iff`).
-/

set_option autoImplicit false

namespace Inquiry.Code

variable {rename : Mention → Option (List Char)} {catalog : Catalog}

/-! ## Swallowed texts -/

/-- The parts in front of the first one for which a table is written. -/
def beforeWritten (rename : Mention → Option (List Char)) : List Part → List Part
  | [] => []
  | .kept characters :: rest => .kept characters :: beforeWritten rename rest
  | .table mention :: rest =>
      if (rename mention).isSome then [] else .table mention :: beforeWritten rename rest

theorem beforeWritten_eq {between back : List Part} {first : Mention} {name : List Char}
    (none : ∀ mention, .table mention ∈ between → rename mention = none)
    (renamed : rename first = some name) :
    beforeWritten rename (between ++ .table first :: back) = between := by
  induction between with
  | nil => simp [beforeWritten, renamed]
  | cons part rest ih =>
      have ofRest := ih fun mention member => none mention (List.mem_cons_of_mem _ member)
      cases part with
      | kept characters => rw [List.cons_append, beforeWritten, ofRest]
      | table mention =>
          have unnamed := none mention (List.mem_cons_self ..)
          rw [List.cons_append, beforeWritten, unnamed, if_neg (by decide), ofRest]

/-- An open backtick does no harm before parts, whether a literal hides it or not: it stays open,
or what it swallows is hidden or means an entity, and the next open backtick does no harm. -/
inductive Harmless (rename : Mention → Option (List Char)) (catalog : Catalog) :
    (hidden : Bool) → List Part → Prop
  | staysOpen {hidden : Bool} {parts : List Part} (stays : StaysOpen rename '`' parts) :
      Harmless rename catalog hidden parts
  | closed {hidden : Bool} {parts : List Part} {swallowed : List Char}
      (isSwallowed : (beforeWritten rename parts).flatMap Part.characters =
        tableMark ++ swallowed)
      (known : hidden = true ∨ IsAccepted catalog (.backtick swallowed))
      (behind : Harmless rename catalog false (behindWritten rename parts)) :
      Harmless rename catalog hidden parts

theorem harmless_iff_of_closed {hidden : Bool} {parts : List Part} {swallowed : List Char}
    (closed : ¬ StaysOpen rename '`' parts)
    (isSwallowed : (beforeWritten rename parts).flatMap Part.characters = tableMark ++ swallowed) :
    Harmless rename catalog hidden parts ↔
      (hidden = true ∨ IsAccepted catalog (.backtick swallowed)) ∧
        Harmless rename catalog false (behindWritten rename parts) := by
  constructor
  · intro harmless
    cases harmless with
    | staysOpen stays => exact absurd stays closed
    | closed same known behind =>
        rw [isSwallowed] at same
        rw [List.append_cancel_left same]
        exact ⟨known, behind⟩
  · rintro ⟨known, behind⟩
    exact .closed isSwallowed known behind

/-! ## What is swallowed -/

/-- A text is swallowed as a reference behind an open backtick before parts: the backtick is
closed, and the text is what it swallows if no literal hides it, or is swallowed behind the backtick
that stands open next. -/
inductive Swallows (rename : Mention → Option (List Char)) :
    (hidden : Bool) → List Part → List Char → Prop
  | here {parts : List Part} {swallowed : List Char} (closed : ¬ StaysOpen rename '`' parts)
      (isSwallowed : (beforeWritten rename parts).flatMap Part.characters =
        tableMark ++ swallowed) :
      Swallows rename false parts swallowed
  | behind {hidden : Bool} {parts : List Part} {swallowed : List Char}
      (closed : ¬ StaysOpen rename '`' parts)
      (later : Swallows rename false (behindWritten rename parts) swallowed) :
      Swallows rename hidden parts swallowed

section Swallowed

variable {hidden : Bool} {parts : List Part}

theorem not_swallows_of_staysOpen {text : List Char} (stays : StaysOpen rename '`' parts) :
    ¬ Swallows rename hidden parts text := by
  intro swallows
  cases swallows with
  | here closed => exact closed stays
  | behind closed => exact closed stays

theorem swallows_iff_of_closed {swallowed text : List Char} (closed : ¬ StaysOpen rename '`' parts)
    (isSwallowed : (beforeWritten rename parts).flatMap Part.characters = tableMark ++ swallowed) :
    Swallows rename hidden parts text ↔
      (hidden = false ∧ text = swallowed) ∨
        Swallows rename false (behindWritten rename parts) text := by
  constructor
  · intro swallows
    cases swallows with
    | here _ same =>
        rw [isSwallowed] at same
        exact .inl ⟨rfl, (List.append_cancel_left same).symm⟩
    | behind _ later => exact .inr later
  · rintro (⟨rfl, rfl⟩ | later)
    · exact .here closed isSwallowed
    · exact .behind closed later

/-- All that is swallowed passes if the first text does, or is hidden, and so does all behind it. -/
theorem forall_swallows_iff_of_closed (passes : List Char → Prop) {swallowed : List Char}
    (closed : ¬ StaysOpen rename '`' parts)
    (isSwallowed : (beforeWritten rename parts).flatMap Part.characters = tableMark ++ swallowed) :
    (∀ text, Swallows rename hidden parts text → passes text) ↔
      (hidden = true ∨ passes swallowed) ∧
        ∀ text, Swallows rename false (behindWritten rename parts) text → passes text := by
  simp only [swallows_iff_of_closed closed isSwallowed, or_imp, forall_and]
  apply and_congr_left
  intro _
  cases hidden <;> simp

/-- A backtick that is closed swallows something, and stands before fewer parts afterwards. -/
theorem exists_beforeWritten_of_closed (closed : ¬ StaysOpen rename '`' parts) :
    (∃ swallowed, (beforeWritten rename parts).flatMap Part.characters = tableMark ++ swallowed) ∧
      (behindWritten rename parts).length < parts.length := by
  obtain ⟨between, first, name, swallowed, cut, none, renamed, isSwallowed, -⟩ :=
    exists_swallowed_of_closed closed
  constructor
  · exact ⟨swallowed, by rw [cut, beforeWritten_eq none renamed, isSwallowed]⟩
  · have whole := congrArg List.length cut
    rw [List.length_append, List.length_cons] at whole
    omega

/-- An open backtick does no harm where all that is swallowed as a reference means an entity. -/
theorem harmless_iff_forall_swallows :
    Harmless rename catalog hidden parts ↔
      ∀ text, Swallows rename hidden parts text → IsAccepted catalog (.backtick text) := by
  induction total : parts.length using Nat.strongRecOn generalizing parts hidden with
  | ind total' ih =>
    by_cases stays : StaysOpen rename '`' parts
    · exact iff_of_true (.staysOpen stays) fun _ swallows =>
        absurd swallows (not_swallows_of_staysOpen stays)
    · obtain ⟨⟨swallowed, isSwallowed⟩, shorter⟩ := exists_beforeWritten_of_closed stays
      rw [total] at shorter
      rw [harmless_iff_of_closed stays isSwallowed, ih _ shorter rfl,
        forall_swallows_iff_of_closed (fun text => IsAccepted catalog (.backtick text)) stays
          isSwallowed]

/-! ## Behind one open backtick -/

/-- The mention of a token passes if a literal hides it or it does. -/
theorem forall_mentionsOf_part_backtick {passes : List Char → Prop} {quoting : Quoting}
    {name : List Char} {expected : Bool} {rest : List Part} :
    (∀ mention ∈ mentionsOf
        ((Token.mention (.backtick name) expected).part catalog quoting :: rest),
          passes mention.identifier) ↔
      (quoting.hides = true ∨ passes name) ∧
        ∀ mention ∈ mentionsOf rest, passes mention.identifier := by
  cases hides : quoting.hides with
  | true =>
      rw [part_of_uncounted (.inl hides), mentionsOf_kept]
      simp
  | false =>
      rw [part_of_counted hides rfl, mentionsOf_table, List.forall_mem_cons]
      simp [Mention.identifier]

/-- **Behind an open backtick all mentions pass exactly where all that is swallowed does**, if the
renamed mentions do.

The induction is on how many parts there are: a backtick that is closed leaves an open backtick in
front of fewer parts. -/
theorem OpenTick.forall_reread_iff (passes : List Char → Prop) {quoting : Quoting}
    {before later : List Char} (opened : OpenTick rename catalog quoting before later parts)
    (pass : ∀ mention ∈ mentionsOf (parts.map (Part.renamed rename)), passes mention.identifier) :
    (∀ mention ∈ mentionsOf (reread rename catalog quoting later parts),
        passes mention.identifier) ↔
      ∀ text, Swallows rename quoting.hides parts text → passes text := by
  induction total : parts.length using Nat.strongRecOn generalizing parts quoting before later with
  | ind total' ih =>
    by_cases stays : StaysOpen rename '`' parts
    · rw [opened.staysOpen stays, mentionsOf_kept]
      exact iff_of_true pass fun _ swallows => absurd swallows (not_swallows_of_staysOpen stays)
    · obtain ⟨between, first, name, swallowed, quoting', before', later', cut, none, renamed,
        isSwallowed, read, shown, opened'⟩ := opened.closed stays
      have upTo : (beforeWritten rename parts).flatMap Part.characters =
          tableMark ++ swallowed := by
        rw [cut, beforeWritten_eq none renamed, isSwallowed]
      have shorter := (exists_beforeWritten_of_closed stays).2
      rw [total] at shorter
      have ofTable : Part.renamed rename (.table first) = .table (.backtick name) := by
        simp [Part.renamed, renamed]
      rw [cut, List.map_append, List.map_cons, ofTable, mentionsOf_append, mentionsOf_table,
        List.forall_mem_append, List.forall_mem_cons] at pass
      obtain ⟨-, passName, passBehind⟩ := pass
      have passBare : passes (Mention.bare name).identifier := passName
      rw [read, forall_mentionsOf_part_backtick, mentionsOf_table, List.forall_mem_cons,
        ih _ shorter opened' passBehind rfl, shown, forall_swallows_iff_of_closed passes stays upTo]
      simp [passBare]

end Swallowed

/-! ## In code -/

/-- A text is swallowed as a reference behind an open backtick among parts. -/
def SwallowsIn (rename : Mention → Option (List Char)) (parts : List Part) (text : List Char) :
    Prop :=
  ∃ earlier later, parts = earlier ++ .kept ['`'] :: later ∧
    Swallows rename (Quoting.outside.after (earlier.flatMap Part.characters)).hides later text

/-- No open backtick among parts does harm. -/
def Tame (rename : Mention → Option (List Char)) (catalog : Catalog) (parts : List Part) : Prop :=
  ∀ earlier later, parts = earlier ++ .kept ['`'] :: later →
    Harmless rename catalog (Quoting.outside.after (earlier.flatMap Part.characters)).hides later

theorem tame_iff_forall_swallowsIn {parts : List Part} :
    Tame rename catalog parts ↔
      ∀ text, SwallowsIn rename parts text → IsAccepted catalog (.backtick text) := by
  simp only [Tame, harmless_iff_forall_swallows]
  constructor
  · rintro tame text ⟨earlier, later, cut, swallows⟩
    exact tame earlier later cut text swallows
  · exact fun accepted earlier later cut text swallows =>
      accepted text ⟨earlier, later, cut, swallows⟩

section InCode

variable {code : List Char}

/-- **All mentions of renamed code pass exactly where all that is swallowed does**, if the renamed
mentions do. -/
theorem forall_written_iff (passes : List Char → Prop)
    (plainly : WrittenPlainly rename catalog .outside (parts catalog code))
    (pass : ∀ mention ∈ mentionsOf ((parts catalog code).map (Part.renamed rename)),
      passes mention.identifier) :
    (∀ mention ∈ mentionsOf (parts catalog (written rename (parts catalog code))),
        passes mention.identifier) ↔
      ∀ text, SwallowsIn rename (parts catalog code) text → passes text := by
  have behindTick : ∀ earlier later, parts catalog code = earlier ++ .kept ['`'] :: later →
      ¬ StaysOpen rename '`' later →
        ((∀ mention ∈ mentionsOf (parts catalog (written rename (parts catalog code))),
            passes mention.identifier) ↔
          ∀ text, Swallows rename
            (Quoting.outside.after (earlier.flatMap Part.characters)).hides later text →
              passes text) := by
    intro earlier later cut closed
    obtain ⟨before, before', opened, reads⟩ := exists_openTick cut plainly closed
    rw [cut, List.map_append, List.map_cons, mentionsOf_append, Part.renamed, mentionsOf_kept,
      List.forall_mem_append] at pass
    rw [reads, mentionsOf_append, List.forall_mem_append, opened.forall_reread_iff passes pass.2]
    exact and_iff_right pass.1
  constructor
  · rintro all text ⟨earlier, later, cut, swallows⟩
    have closed : ¬ StaysOpen rename '`' later := fun stays =>
      not_swallows_of_staysOpen stays swallows
    exact (behindTick earlier later cut closed).1 all text swallows
  · intro swallowed
    by_cases shut : Shut rename (parts catalog code)
    · rw [plainly.inPlace shut]
      exact pass
    · obtain ⟨earlier, later, cut, closed⟩ := exists_closed_of_not_shut plainly shut
      exact (behindTick earlier later cut closed).2 fun text swallows =>
        swallowed text ⟨earlier, later, cut, swallows⟩

/-- **All mentions of renamed code are accepted exactly where no open backtick does harm**, if the
renamed mentions are. -/
theorem allAccepted_written_iff
    (plainly : WrittenPlainly rename catalog .outside (parts catalog code))
    (accepted : AllAccepted catalog ((parts catalog code).map (Part.renamed rename))) :
    AllAccepted catalog (parts catalog (written rename (parts catalog code))) ↔
      Tame rename catalog (parts catalog code) := by
  rw [tame_iff_forall_swallowsIn]
  exact forall_written_iff (fun text => IsAccepted catalog (.backtick text)) plainly accepted

/-- Code with a mention has one after renaming. -/
theorem mentionsOf_written_ne_nil
    (plainly : WrittenPlainly rename catalog .outside (parts catalog code))
    (some : mentionsOf (parts catalog code) ≠ []) :
    mentionsOf (parts catalog (written rename (parts catalog code))) ≠ [] := by
  by_cases shut : Shut rename (parts catalog code)
  · rw [plainly.inPlace shut, mentionsOf_map_renamed]
    simpa using some
  · obtain ⟨mention, name, -, -, bare⟩ := exists_bare_of_not_shut plainly shut
    exact List.ne_nil_of_mem (mem_mentionsOf_iff.2 bare)

end InCode

end Inquiry.Code
