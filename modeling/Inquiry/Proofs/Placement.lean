import Inquiry.Proofs.Parts

/-!
# Replacing tables in place

Replacing the table of one reference must not change how the code around it is
read.  It can: a backtick that is written around a table may close a quoted
name that was open before, and then what follows is read another way.  This
file says when that does not happen.

Code is read into parts, which are pieces without their spans: text that is
kept, or a mention that counts (`partsOf`).  Replacing tables renames the
mentions among the parts (`Part.renamed`).  The references stay in place when
reading the renamed parts again gives the renamed parts.  Three things are
enough for it (`Undisturbed`): no table holds a backtick; a mention and its
table leave the same quotes open (`balanced`); and no table that is written
holds a mark that stands open in front of it, directly before the mark of
tables (`shut`).  The proof goes through both readings side by side, and what
it keeps up about the code already read is `Alike`.

The first and the last of the three are necessary as well
(`inPlace_iff`).
-/

set_option autoImplicit false

namespace Inquiry.Code

open Inquiry.Text

/-! ## Renaming -/

/-- A part with its mention renamed: a name given for a mention is written between backticks. -/
def Part.renamed (rename : Mention → Option (List Char)) : Part → Part
  | .kept characters => .kept characters
  | .table mention =>
      match rename mention with
      | some name => .table (.backtick name)
      | none => .table mention

/-- A mention renamed. -/
def Mention.renamed (rename : Mention → Option (List Char)) (mention : Mention) : Mention :=
  match rename mention with
  | some name => .backtick name
  | none => mention

theorem mentionsOf_map_renamed (rename : Mention → Option (List Char)) (parts : List Part) :
    mentionsOf (parts.map (Part.renamed rename)) =
      (mentionsOf parts).map (Mention.renamed rename) := by
  induction parts with
  | nil => rfl
  | cons part rest ih =>
      cases part with
      | kept characters => exact ih
      | table mention =>
          have ofFirst : Part.renamed rename (.table mention) =
              .table (mention.renamed rename) := by
            rw [Part.renamed, Mention.renamed]
            cases rename mention <;> rfl
          rw [List.map_cons, ofFirst, mentionsOf_table, ih, mentionsOf_table, List.map_cons]

/-- The table that a name stands for. -/
def markedName (name : List Char) : String := String.ofList (tableMark ++ name)

/-- Replacing tables writes the parts with their mentions renamed. -/
theorem replaceTables_eq {rename : Mention → Option (List Char)}
    {choose : Reference → Option String}
    (agree : ∀ reference, choose reference = (rename reference.mention).map markedName)
    (catalog : Catalog) (code : List Char) :
    replaceTables catalog code choose =
      ((parts catalog code).map (Part.renamed rename)).flatMap Part.characters := by
  have ofPiece : ∀ piece : Piece,
      piece.replaced choose = (piece.part.renamed rename).characters := by
    intro piece
    cases piece with
    | kept characters => rfl
    | reference found =>
        simp only [Piece.replaced, Piece.part, Part.renamed, agree]
        cases rename found.mention with
        | none => rfl
        | some name => simp [markedName, Part.characters, Mention.characters]
  rw [replaceTables, ← map_part_pieces, List.map_map, List.flatMap_map]
  exact congrArg (List.flatMap · _) (funext ofPiece)

/-! ## Reading side by side -/

section Renaming

variable {rename : Mention → Option (List Char)} {catalog : Catalog}

/-- The renamed parts, written out. -/
def written (rename : Mention → Option (List Char)) (parts : List Part) : List Char :=
  (parts.map (Part.renamed rename)).flatMap Part.characters

@[simp] theorem written_nil : written rename [] = [] := rfl

@[simp] theorem written_cons (part : Part) (parts : List Part) :
    written rename (part :: parts) = (part.renamed rename).characters ++ written rename parts :=
  rfl

theorem written_append (front back : List Part) :
    written rename (front ++ back) = written rename front ++ written rename back := by
  simp [written]

theorem characters_renamed (rename : Mention → Option (List Char)) (part : Part) :
    (part.renamed rename).characters = part.characters ∨
      ∃ rest, (part.renamed rename).characters = '`' :: rest := by
  cases part with
  | kept characters => exact .inl rfl
  | table mention =>
      rw [Part.renamed]
      cases rename mention with
      | none => exact .inl rfl
      | some name => exact .inr ⟨_, rfl⟩

/-- What parts begin with, if no backtick is in it, they begin with where some of them are written
in another way, as long as these were between backticks. -/
theorem isPrefix_flatMap_of_ticked {write other : Part → List Char}
    (each : ∀ part, write part = other part ∨ ∃ rest, write part = '`' :: rest)
    {word : List Char} {parts : List Part} (noTick : '`' ∉ word)
    (begins : word <+: parts.flatMap write) : word <+: parts.flatMap other := by
  induction parts generalizing word with
  | nil => exact begins
  | cons part rest ih =>
      rw [List.flatMap_cons] at begins ⊢
      rcases each part with same | ⟨tail, ticked⟩
      · rw [same] at begins
        rcases List.prefix_or_prefix_of_prefix begins (List.prefix_append ..) with within | past
        · exact within.trans (List.prefix_append ..)
        · obtain ⟨more, rfl⟩ := past
          rw [List.prefix_append_right_inj] at begins ⊢
          exact ih (fun member => noTick (List.mem_append_right _ member)) begins
      · rw [ticked, List.cons_append, List.prefix_cons_iff] at begins
        rcases begins with rfl | ⟨more, rfl, -⟩
        · exact List.nil_prefix
        · exact absurd (List.mem_cons_self ..) noTick

/-- What the renamed parts begin with, if no backtick is in it, the parts began with. -/
theorem isPrefix_of_isPrefix_written {word : List Char} {parts : List Part} (noTick : '`' ∉ word)
    (begins : word <+: written rename parts) : word <+: parts.flatMap Part.characters := by
  rw [written, List.flatMap_map] at begins
  exact isPrefix_flatMap_of_ticked (characters_renamed rename) noTick begins

theorem endsName_written {parts : List Part}
    (ends : EndsName (parts.flatMap Part.characters)) : EndsName (written rename parts) := by
  intro symbol isHead
  obtain ⟨rest, same⟩ := List.head?_eq_some_iff.1 isHead
  by_cases isTick : symbol = '`'
  · rw [isTick]
    decide
  · have begins : [symbol] <+: written rename parts := ⟨rest, same.symm⟩
    obtain ⟨rest, same⟩ := isPrefix_of_isPrefix_written (by simpa using Ne.symm isTick) begins
    exact ends symbol (by rw [← same]; rfl)

theorem startsUnpaired_written {parts : List Part}
    (unpaired : StartsUnpaired (parts.flatMap Part.characters)) :
    StartsUnpaired (written rename parts) :=
  ⟨fun begins => unpaired.1 (isPrefix_of_isPrefix_written (by decide) begins),
    fun begins => unpaired.2 (isPrefix_of_isPrefix_written (by decide) begins)⟩

/-- Code that is read up to the same place twice, before and after tables were replaced, reads on
alike: both times the next word starts here or both times it does not, unless a table was just
replaced by one that ends in a backtick; and a table is expected at most where it was. -/
structure Alike (before later text : List Char) : Prop where
  head : later.head? = before.head? ∨ later.head? = some '`' ∧
    ((∀ symbol ∈ before.head?, isWordSymbol symbol = false) ∨ EndsName text)
  word : wordBefore later = wordBefore before ∨ wordBefore later = []

namespace Alike

variable {before later text : List Char}

theorem refl (before text : List Char) : Alike before before text := ⟨.inl rfl, .inl rfl⟩

theorem expectsTable (alike : Alike before later text) (expects : expectsTable later = true) :
    expectsTable before = true := by
  rcases alike.word with same | none
  · simpa [Code.expectsTable, same] using expects
  · simp [Code.expectsTable, none] at expects

/-- A word starts wherever one did. -/
theorem startsWord (alike : Alike before later text)
    (starts : startsWordAfter before.head? = true) : startsWordAfter later.head? = true := by
  rcases alike.head with same | ⟨tick, -⟩
  · rw [same]
    exact starts
  · rw [tick]
    decide

/-- A bare name starts only where one did. -/
theorem startsWord_of_later {symbol : Char} {rest : List Char}
    (alike : Alike before later (symbol :: rest)) (bare : isBareSymbol symbol = true)
    (starts : startsWordAfter later.head? = true) : startsWordAfter before.head? = true := by
  rcases alike.head with same | ⟨tick, nonWord | ends⟩
  · rw [← same]
    exact starts
  · cases isHead : before.head? with
    | none => rfl
    | some last => simpa [startsWordAfter] using nonWord last isHead
  · rw [ends symbol rfl] at bare
    cases bare

/-- The letters that end the code before, with no blanks aside. -/
def lettersBefore (before : List Char) : List Char :=
  (before.takeWhile Char.isAlpha).reverse.map Char.toLower

/-- A letter is a character of a bare name, part of a word, and not blank. -/
theorem of_isAlpha {symbol : Char} (isLetter : symbol.isAlpha = true) :
    isBareSymbol symbol = true ∧ isWordSymbol symbol = true ∧ isBlank symbol = false := by
  have range : 65 ≤ symbol.toNat ∧ symbol.toNat ≤ 90 ∨ 97 ≤ symbol.toNat ∧ symbol.toNat ≤ 122 := by
    have inRange : (decide (symbol.val ≥ 'A'.val ∧ symbol.val ≤ 'Z'.val) ||
        decide (symbol.val ≥ 'a'.val) && decide (symbol.val ≤ 'z'.val)) = true := isLetter
    simp only [Bool.or_eq_true, Bool.and_eq_true, decide_eq_true_eq, UInt32.le_iff_toNat_le,
      ge_iff_le] at inRange
    exact inRange
  refine ⟨?_, ?_, ?_⟩
  · simp only [isBareSymbol, Char.le_def, UInt32.le_iff_toNat_le, Bool.or_eq_true,
      Bool.and_eq_true, decide_eq_true_eq]
    rcases range with capital | small
    · exact .inl (.inl (.inr capital))
    · exact .inl (.inl (.inl small))
  · rw [isWordSymbol, if_pos (by omega), Char.isAlphanum, isLetter]
    rfl
  · have wide : ∀ blank ∈ wideBlanks, 0x85 ≤ blank := by decide
    have notWide : symbol.toNat ∉ wideBlanks := by
      intro member
      have bound := wide _ member
      omega
    have notSpace : symbol ≠ ' ' := by
      rintro rfl
      revert range
      decide
    simp only [isBlank, notSpace, List.contains_eq_mem, notWide, decide_false, Bool.or_false,
      Bool.false_or, Bool.and_eq_false_iff, decide_eq_false_iff_not]
    omega

theorem wordBefore_cons (symbol : Char) (before : List Char) :
    wordBefore (symbol :: before) =
      if isBlank symbol then wordBefore before
      else if symbol.isAlpha then lettersBefore before ++ [symbol.toLower]
      else [] := by
  by_cases blank : isBlank symbol
  · simp [wordBefore, blank]
  · by_cases isLetter : symbol.isAlpha
    · simp [wordBefore, lettersBefore, blank, isLetter]
    · simp [wordBefore, blank, isLetter]

/-- Where a letter comes next, the same letters come before it. -/
theorem lettersBefore_eq {symbol : Char} {rest : List Char}
    (alike : Alike before later (symbol :: rest)) (isLetter : symbol.isAlpha = true) :
    lettersBefore later = lettersBefore before := by
  rcases alike.head with same | ⟨tick, nonWord | ends⟩
  · cases before with
    | nil => rw [List.head?_eq_none_iff.1 same]
    | cons last before =>
        obtain ⟨later, rfl⟩ := List.head?_eq_some_iff.1 same
        by_cases isLast : last.isAlpha
        · have notBlank := (of_isAlpha isLast).2.2
          rcases alike.word with words | none
          · simpa [wordBefore_cons, notBlank, isLast, lettersBefore] using words
          · simp [wordBefore_cons, notBlank, isLast] at none
        · simp [lettersBefore, isLast]
  · obtain ⟨later, rfl⟩ := List.head?_eq_some_iff.1 tick
    cases before with
    | nil => rfl
    | cons last before =>
        have notLetter : last.isAlpha = false := by
          rw [Bool.eq_false_iff]
          intro isLast
          have isWord := (of_isAlpha isLast).2.1
          rw [nonWord last rfl] at isWord
          cases isWord
        simp [lettersBefore, notLetter]
  · have bare := (of_isAlpha isLetter).1
    rw [ends symbol rfl] at bare
    cases bare

theorem cons {symbol : Char} {rest : List Char} (alike : Alike before later (symbol :: rest)) :
    Alike (symbol :: before) (symbol :: later) rest := by
  refine ⟨.inl rfl, ?_⟩
  rw [wordBefore_cons, wordBefore_cons]
  by_cases blank : isBlank symbol
  · simpa [blank] using alike.word
  · by_cases isLetter : symbol.isAlpha
    · left
      simp [blank, isLetter, alike.lettersBefore_eq isLetter]
    · simp [blank, isLetter]

theorem append {characters rest : List Char} (alike : Alike before later (characters ++ rest)) :
    Alike (characters.reverse ++ before) (characters.reverse ++ later) rest := by
  induction characters generalizing before later with
  | nil => exact alike
  | cons symbol characters ih =>
      rw [List.reverse_cons, List.append_assoc, List.append_assoc]
      exact ih alike.cons

/-- Code is alike after a mention and after the table that replaces it. -/
theorem of_renamed {mention : Mention} {after : List Char}
    (stands : mention.StandsBetween before.head? after) (name : List Char) :
    Alike (mention.characters.reverse ++ before)
      ((Mention.backtick name).characters.reverse ++ later) after := by
  have tick : (Mention.backtick name).characters.reverse ++ later =
      '`' :: ((tableMark ++ name).reverse ++ '`' :: later) := by
    simp [Mention.characters]
  rw [tick]
  refine ⟨.inr ⟨rfl, ?_⟩, .inr ?_⟩
  · cases mention with
    | backtick identifier =>
        left
        intro symbol isLast
        simp [Mention.characters] at isLast
        rw [← isLast]
        decide
    | doubleQuote identifier =>
        left
        intro symbol isLast
        simp [Mention.characters] at isLast
        rw [← isLast]
        decide
    | bare identifier => exact .inr stands.2.2.1
    | emptyLiteral quote =>
        left
        intro symbol isLast
        simp [Mention.characters] at isLast
        rcases stands.2 with isQuote | isQuote <;> rw [← isLast, isQuote] <;> decide
  · rw [wordBefore_cons, if_neg (by decide), if_neg (by decide)]

end Alike

/-! ## What keeps the references in place -/

/-- Every empty mention is renamed. -/
def Filled (rename : Mention → Option (List Char)) (parts : List Part) : Prop :=
  ∀ mention, .table mention ∈ parts → mention.isEmpty = true → (rename mention).isSome = true

/-- No name that is written holds a backtick. -/
def Unticked (rename : Mention → Option (List Char)) (parts : List Part) : Prop :=
  ∀ mention name, .table mention ∈ parts → rename mention = some name → '`' ∉ name

/-- The table that is written for a mention leaves the same quotes open as the mention did. -/
def Balanced (rename : Mention → Option (List Char)) (quoting : Quoting) (parts : List Part) :
    Prop :=
  ∀ earlier mention later name, parts = earlier ++ .table mention :: later →
    rename mention = some name →
      (quoting.after (earlier.flatMap Part.characters)).after (Mention.backtick name).characters =
        (quoting.after (earlier.flatMap Part.characters)).after mention.characters

theorem Balanced.tail {quoting : Quoting} {part : Part} {parts : List Part}
    (balanced : Balanced rename quoting (part :: parts)) :
    Balanced rename (quoting.after part.characters) parts := by
  intro earlier mention later name cut named
  have whole := balanced (part :: earlier) mention later name (by rw [cut]; rfl) named
  rw [List.flatMap_cons, Quoting.after_append] at whole
  exact whole

/-- A mark stays open before parts: where the mark of tables comes next, so that it would open a
quoted name, no table that is written later closes the name. -/
def StaysOpen (rename : Mention → Option (List Char)) (mark : Char) (parts : List Part) : Prop :=
  tableMark <+: written rename parts → ∀ mention name, .table mention ∈ parts →
    rename mention = some name → mark ∉ (Mention.backtick name).characters

/-- The marks that were kept as they are stay open. -/
def Shut (rename : Mention → Option (List Char)) (parts : List Part) : Prop :=
  ∀ earlier mark later, parts = earlier ++ .kept [mark] :: later → isMark mark = true →
    StaysOpen rename mark later

/-- Parts that can be renamed, in front of others, without changing how they are read. -/
structure Undisturbed (rename : Mention → Option (List Char)) (quoting : Quoting)
    (front back : List Part) : Prop where
  filled : Filled rename front
  unticked : Unticked rename front
  balanced : Balanced rename quoting front
  shut : ∀ earlier mark later, front = earlier ++ .kept [mark] :: later → isMark mark = true →
    StaysOpen rename mark (later ++ back)

theorem Undisturbed.tail {quoting : Quoting} {part : Part} {front back : List Part}
    (undisturbed : Undisturbed rename quoting (part :: front) back) :
    Undisturbed rename (quoting.after part.characters) front back where
  filled := fun mention member => undisturbed.filled mention (List.mem_cons_of_mem _ member)
  unticked := fun mention name member named =>
    undisturbed.unticked mention name (List.mem_cons_of_mem _ member) named
  balanced := undisturbed.balanced.tail
  shut := fun earlier mark later cut =>
    undisturbed.shut (part :: earlier) mark later (by rw [cut]; rfl)

/-! ## One token -/

/-- A mention that is kept stands where it stood. -/
theorem Mention.StandsBetween.written {before later : List Char} {mention : Mention}
    {parts : List Part}
    (stands : mention.StandsBetween before.head? (parts.flatMap Part.characters))
    (starts : startsWordAfter before.head? = true → startsWordAfter later.head? = true) :
    mention.StandsBetween later.head? (written rename parts) := by
  cases mention with
  | backtick identifier => exact stands
  | doubleQuote identifier => exact stands
  | bare identifier =>
      obtain ⟨first, bare, ends, unpaired⟩ := stands
      exact ⟨starts first, bare, endsName_written ends,
        fun isEmpty => startsUnpaired_written (unpaired isEmpty)⟩
  | emptyLiteral quote => exact ⟨starts stands.1, stands.2⟩

theorem notMem_written {symbol : Char} {parts : List Part}
    (absent : symbol ∉ parts.flatMap Part.characters)
    (unwritten : ∀ mention name, .table mention ∈ parts → rename mention = some name →
      symbol ∉ (Mention.backtick name).characters) : symbol ∉ Code.written rename parts := by
  induction parts with
  | nil => exact absent
  | cons part rest ih =>
      rw [List.flatMap_cons, List.mem_append, not_or] at absent
      rw [written_cons, List.mem_append, not_or]
      refine ⟨?_, ih absent.2 fun mention name member => unwritten mention name
        (List.mem_cons_of_mem _ member)⟩
      cases part with
      | kept characters => exact absent.1
      | table mention =>
          rw [Part.renamed]
          cases named : rename mention with
          | none => exact absent.1
          | some name => exact unwritten mention name (List.mem_cons_self ..) named

/-- No mention begins at a character that is kept, where none began. -/
theorem mentionAt?_written_eq_none {before later rest : List Char} {symbol : Char}
    {quoting : Quoting} (none : mentionAt? before.head? (symbol :: rest) = none)
    (alike : Alike before later (symbol :: rest))
    (staysOpen : isMark symbol = true → StaysOpen rename symbol
      (partsOf catalog quoting (tokensFrom (symbol :: before) rest))) :
    mentionAt? later.head?
      (symbol :: written rename (partsOf catalog quoting (tokensFrom (symbol :: before) rest))) =
        Option.none := by
  rw [mentionAt?_eq_none_iff] at none ⊢
  have whole := flatMap_partsOf_tokensFrom catalog quoting (symbol :: before) rest
  by_cases marked : isMark symbol
  · rw [if_pos marked] at none ⊢
    intro begins
    refine notMem_written ?_ (staysOpen marked begins)
    rw [whole]
    apply none
    rw [← whole]
    exact isPrefix_of_isPrefix_written (by decide) begins
  · rw [if_neg marked] at none ⊢
    intro starts begins
    have begins : tableMark <+: written rename
        (.kept [symbol] :: partsOf catalog quoting (tokensFrom (symbol :: before) rest)) := begins
    have began := isPrefix_of_isPrefix_written (by decide) begins
    rw [List.flatMap_cons, whole] at began
    have isT : symbol = 't' := (List.cons_prefix_cons.1 began).1.symm
    exact none (alike.startsWord_of_later (by rw [isT]; decide) starts) began

/-! ## All tokens -/

/-- A mention is kept where a literal is open or it does not count. -/
theorem part_of_uncounted {quoting : Quoting} {mention : Mention} {expected : Bool}
    (uncounted : quoting.hides = true ∨ counts catalog expected mention = false) :
    (Token.mention mention expected).part catalog quoting = .kept mention.characters := by
  rcases uncounted with hidden | uncounted
  · simp [Token.part, hidden]
  · simp [Token.part, uncounted]

theorem part_of_counted {quoting : Quoting} {mention : Mention} {expected : Bool}
    (shown : quoting.hides = false) (counted : counts catalog expected mention = true) :
    (Token.mention mention expected).part catalog quoting = .table mention := by
  simp [Token.part, shown, counted]

/-- A mention is read again where it stood, as itself or as the table that replaces it.

What is asked of the mention that is read is all that reading on depends on. -/
theorem exists_mention_read_again {quoting : Quoting} {before later : List Char}
    {mention : Mention} {front back tail : List Part}
    (stands : mention.StandsBetween before.head? (tail.flatMap Part.characters))
    (undisturbed : Undisturbed rename quoting
      ((Token.mention mention (expectsTable before)).part catalog quoting :: front) back)
    (alike : Alike before later (mention.characters ++ tail.flatMap Part.characters)) :
    let part := (Token.mention mention (expectsTable before)).part catalog quoting
    ∃ again : Mention, (part.renamed rename).characters = again.characters ∧
      again.StandsBetween later.head? (written rename tail) ∧
      (Token.mention again (expectsTable later)).part catalog quoting = part.renamed rename ∧
      quoting.after again.characters = quoting.after mention.characters ∧
      Alike (mention.characters.reverse ++ before) (again.characters.reverse ++ later)
        (tail.flatMap Part.characters) := by
  have standsAgain : mention.StandsBetween later.head? (written rename tail) :=
    stands.written alike.startsWord
  by_cases uncounted : quoting.hides = true ∨ counts catalog (expectsTable before) mention = false
  · have stillUncounted : quoting.hides = true ∨
        counts catalog (expectsTable later) mention = false :=
      uncounted.imp id (counts_eq_false_of_le alike.expectsTable)
    rw [part_of_uncounted uncounted]
    exact ⟨mention, rfl, standsAgain, part_of_uncounted stillUncounted, rfl, alike.append⟩
  · rw [not_or, Bool.not_eq_true, Bool.not_eq_false] at uncounted
    obtain ⟨shown, counted⟩ := uncounted
    rw [part_of_counted shown counted] at undisturbed ⊢
    cases named : rename mention with
    | none =>
        have notLone : mention ≠ .bare [] := by
          rintro rfl
          have some := undisturbed.filled (.bare []) (List.mem_cons_self ..) rfl
          rw [named] at some
          cases some
        have stillCounted : counts catalog (expectsTable later) mention = true :=
          (counts_congr notLone _ _).trans counted
        refine ⟨mention, ?_, standsAgain, ?_, rfl, alike.append⟩
        · rw [Part.renamed, named]
          rfl
        · rw [part_of_counted shown stillCounted, Part.renamed, named]
    | some name =>
        have unticked := undisturbed.unticked mention name (List.mem_cons_self ..) named
        refine ⟨.backtick name, ?_, unticked, ?_, ?_, .of_renamed stands name⟩
        · rw [Part.renamed, named]
          rfl
        · rw [part_of_counted shown rfl, Part.renamed, named]
        · exact undisturbed.balanced [] mention front name rfl named

/-- **Undisturbed parts stay in place**: reading the renamed parts gives the renamed parts, and
goes on with what comes after them.

The induction is on the tokens of the code as it was.  Each of them is read again in the renamed
code, where the code before is another one but alike. -/
theorem partsOf_written {quoting : Quoting} {before later text : List Char} {front back : List Part}
    (cut : partsOf catalog quoting (tokensFrom before text) = front ++ back)
    (undisturbed : Undisturbed rename quoting front back) (alike : Alike before later text) :
    partsOf catalog quoting (tokensFrom later (written rename (front ++ back))) =
      front.map (Part.renamed rename) ++
        partsOf catalog (quoting.after (front.flatMap Part.characters))
          (tokensFrom ((written rename front).reverse ++ later) (written rename back)) := by
  fun_induction tokensFrom before text generalizing quoting later front with
  | case1 before =>
      obtain ⟨rfl, rfl⟩ := List.nil_eq_append_iff.1 cut
      rfl
  | case2 before symbol rest mention after found ih =>
      obtain ⟨same, stands⟩ := mentionAt?_eq_some_iff.1 found
      rw [partsOf_mention] at cut
      cases front with
      | nil => rfl
      | cons part front =>
          rw [List.cons_append] at cut
          obtain ⟨rfl, ofRest⟩ := List.cons.inj cut
          have ofTail := undisturbed.tail
          rw [characters_part, Token.characters] at ofTail
          have whole := flatMap_partsOf_tokensFrom catalog (quoting.after mention.characters)
            (mention.characters.reverse ++ before) after
          rw [ofRest] at whole
          rw [← whole] at stands
          rw [same, ← whole] at alike
          obtain ⟨again, asAgain, standsAgain, read, quotes, alikeAfter⟩ :=
            exists_mention_read_again stands undisturbed alike
          rw [whole] at alikeAfter
          rw [List.cons_append, written_cons, asAgain,
            tokensFrom_of_mention (mentionAt?_eq_some_iff.2 ⟨rfl, standsAgain⟩), partsOf_mention,
            read, quotes, ih ofRest ofTail alikeAfter, List.map_cons, List.cons_append,
            written_cons, asAgain, List.reverse_append, List.append_assoc, List.flatMap_cons,
            characters_part, Quoting.after_append]
          rfl
  | case3 before symbol rest found ih =>
      rw [partsOf_plain] at cut
      cases front with
      | nil => rfl
      | cons part front =>
          rw [List.cons_append] at cut
          obtain ⟨rfl, ofRest⟩ := List.cons.inj cut
          have ofTail : Undisturbed rename (quoting.step symbol) front back := undisturbed.tail
          have none : mentionAt? later.head? (symbol :: written rename
              (partsOf catalog (quoting.step symbol) (tokensFrom (symbol :: before) rest))) =
                Option.none :=
            mentionAt?_written_eq_none found alike fun marked => by
              rw [ofRest]
              exact undisturbed.shut [] symbol front rfl marked
          rw [ofRest] at none
          rw [List.cons_append, written_cons, Part.renamed, Part.characters,
            List.singleton_append, tokensFrom_of_none none, partsOf_plain,
            ih ofRest ofTail alike.cons]
          simp [Part.renamed, Part.characters]

/-! ## In place -/

/-- The references of code stay in place: its parts are read again, renamed. -/
def InPlace (rename : Mention → Option (List Char)) (catalog : Catalog) (code : List Char) :
    Prop :=
  parts catalog (written rename (parts catalog code)) =
    (parts catalog code).map (Part.renamed rename)

theorem mem_written {parts : List Part} {mention : Mention} {name : List Char} {symbol : Char}
    (member : .table mention ∈ parts) (named : rename mention = some name)
    (inside : symbol ∈ (Mention.backtick name).characters) : symbol ∈ written rename parts := by
  refine List.mem_flatMap.2 ⟨.table (.backtick name), ?_, inside⟩
  refine List.mem_map.2 ⟨.table mention, member, ?_⟩
  simp [Part.renamed, named]

/-- The table that is written where a reference stays in place is read as one name, so no backtick
is in it. -/
theorem InPlace.unticked {code : List Char} (inPlace : InPlace rename catalog code) :
    Unticked rename (parts catalog code) := by
  intro mention name member named
  obtain ⟨front, back, cut⟩ := List.append_of_mem member
  rw [InPlace, cut, List.map_append, List.map_cons] at inPlace
  have renamed : Part.renamed rename (.table mention) = .table (.backtick name) := by
    simp [Part.renamed, named]
  rw [renamed] at inPlace
  obtain ⟨-, stands⟩ := stands_of_table inPlace
  exact stands

/-- A mark before which references stay in place is not closed by a table written later. -/
theorem InPlace.shut {code : List Char} (inPlace : InPlace rename catalog code) :
    Shut rename (parts catalog code) := by
  intro earlier mark later cut marked begins mention name member named closes
  rw [InPlace, cut, List.map_append, List.map_cons] at inPlace
  exact notMem_of_kept inPlace marked begins (mem_written member named closes)

/-- **References stay in place exactly where no table holds a backtick and no mark in front of a
name is closed by a table that is written later**, provided that the quotes in the references and
in the tables are balanced. -/
theorem inPlace_iff {code : List Char} (filled : Filled rename (parts catalog code))
    (balanced : Balanced rename .outside (parts catalog code)) :
    InPlace rename catalog code ↔
      Unticked rename (parts catalog code) ∧ Shut rename (parts catalog code) := by
  constructor
  · intro inPlace
    exact ⟨inPlace.unticked, inPlace.shut⟩
  · rintro ⟨unticked, shut⟩
    have undisturbed : Undisturbed rename .outside (parts catalog code) [] :=
      ⟨filled, unticked, balanced, fun earlier mark later cut marked => by
        rw [List.append_nil]
        exact shut earlier mark later cut marked⟩
    have read := partsOf_written (List.append_nil _).symm undisturbed (.refl [] code)
    rw [List.append_nil, written_nil, tokensFrom, partsOf_nil, List.append_nil] at read
    exact read

end Renaming

end Inquiry.Code
