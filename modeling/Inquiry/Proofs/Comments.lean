import Inquiry.Proofs.Acceptance
import Inquiry.Proofs.Shading

/-!
# Comments

Where the parser cannot read the code, the search for words that write takes
the string literals out of it and looks through the rest.  It knows of quotes only.
A reader of SQL knows of comments too, from two hyphens and a blank to the end
of the line or between a slash and a star and their reverse, in which a quote
is a character like others; and it knows that a backslash in a string between
double quotes guards the next character.  `SqlReading` is what that reader
remembers.  It also keeps, for a comment that is open, which quotes would be
open in it if quotes counted there.

The two readers remember the same quotes until a character misleads the one who
sees no comments: a comment ends in which a quote was left open, or a double
quote is guarded (`quoting_after`).  Up to there a word that writes is seen
wherever it stands outside literals, in comments and behind them, and code that
cannot be read is refused for it, whatever parser could not read it
(`plan_refuses_writeWord`).  Behind an apostrophe in a comment it is not
(`plan_overlooks_apostropheCode`).
-/

set_option autoImplicit false

namespace Inquiry.Code

open Inquiry.Text

/-! ## The reader of SQL -/

/-- What a reader of SQL remembers of the code before. -/
inductive SqlReading where
  /-- No comment is open; quotes may be. -/
  | code (quoting : Quoting)
  /-- A string between double quotes is open, and a backslash in it guards the next character. -/
  | guarded
  /-- A hyphen was just read outside quotes. -/
  | hyphen
  /-- Two hyphens were just read outside quotes. -/
  | hyphens
  /-- A slash was just read outside quotes. -/
  | slash
  /-- A comment is open to the end of the line. -/
  | line (inner : Quoting)
  /-- A comment is open to a star and a slash. -/
  | block (inner : Quoting)
  /-- A comment is open to a star and a slash, and a star was just read in it. -/
  | star (inner : Quoting)
deriving DecidableEq

namespace SqlReading

/-- Nothing is open. -/
def start : SqlReading := .code .outside

/-- What is remembered after one more character where nothing is open. -/
def opened (symbol : Char) : SqlReading :=
  if symbol = '-' then .hyphen
  else if symbol = '/' then .slash
  else .code (Quoting.outside.step symbol)

/-- What is remembered after one more character. -/
def step : SqlReading → Char → SqlReading
  | .code .outside, symbol => opened symbol
  | .code (.quoted mark), symbol =>
      if mark = '"' ∧ symbol = '\\' then .guarded else .code ((Quoting.quoted mark).step symbol)
  | .code quoting, symbol => .code (quoting.step symbol)
  | .guarded, _ => .code (.quoted '"')
  | .hyphen, symbol => if symbol = '-' then .hyphens else opened symbol
  | .hyphens, symbol =>
      if symbol = '\n' then start
      else if Sql.separates symbol then .line .outside
      else if symbol = '-' then .hyphens
      else opened symbol
  | .slash, symbol => if symbol = '*' then .block .outside else opened symbol
  | .line inner, symbol => if symbol = '\n' then start else .line (inner.step symbol)
  | .block inner, symbol =>
      if symbol = '*' then .star (inner.step symbol) else .block (inner.step symbol)
  | .star inner, symbol =>
      if symbol = '/' then start
      else if symbol = '*' then .star (inner.step symbol)
      else .block (inner.step symbol)

/-- What is remembered after a text. -/
def after (reading : SqlReading) (text : List Char) : SqlReading := text.foldl step reading

/-- Whether a string literal is open. -/
def inLiteral : SqlReading → Bool
  | .code quoting => quoting.hides
  | _ => false

/-- Whether a comment is open, and in it a single quote. -/
def inQuotedComment : SqlReading → Bool
  | .line inner | .block inner | .star inner => inner.hides
  | _ => false

/-- Whether a character misleads who sees no comments: it ends a comment in which a quote was left
open, or it is a double quote that is guarded. -/
def misleads : SqlReading → Char → Bool
  | .line inner, symbol => symbol = '\n' && inner ≠ .outside
  | .star inner, symbol => symbol = '/' && inner ≠ .outside
  | .guarded, symbol => symbol = '"'
  | _, _ => false

/-- No character of a text misleads. -/
def NothingMisleads : SqlReading → List Char → Prop
  | _, [] => True
  | reading, symbol :: rest =>
      reading.misleads symbol = false ∧ (reading.step symbol).NothingMisleads rest

instance decidableNothingMisleads :
    (reading : SqlReading) → (text : List Char) → Decidable (reading.NothingMisleads text)
  | _, [] => inferInstanceAs (Decidable True)
  | reading, symbol :: rest =>
      have := decidableNothingMisleads (reading.step symbol) rest
      inferInstanceAs (Decidable (_ ∧ _))

/-! ## Who sees no comments -/

/-- What is remembered of the same code by who sees no comments. -/
def quoting : SqlReading → Quoting
  | .code quoting => quoting
  | .guarded => .quoted '"'
  | .hyphen | .hyphens | .slash => .outside
  | .line inner | .block inner | .star inner => inner

theorem hides_quoting (reading : SqlReading) :
    reading.quoting.hides = (reading.inLiteral || reading.inQuotedComment) := by
  cases reading with
  | code quoting => exact (Bool.or_false _).symm
  | line inner | block inner | star inner => exact (Bool.false_or _).symm
  | guarded | hyphen | hyphens | slash => rfl

/-- Where nothing is open, one character may be treated apart from all others. -/
theorem quoting_ite {mark symbol : Char} {next other : SqlReading}
    (ofMark : next.quoting = Quoting.outside.step mark)
    (ofOther : other.quoting = Quoting.outside.step symbol) :
    (if symbol = mark then next else other).quoting = Quoting.outside.step symbol := by
  split
  case isTrue same =>
    rw [same]
    exact ofMark
  case isFalse => exact ofOther

theorem quoting_opened (symbol : Char) :
    (opened symbol).quoting = Quoting.outside.step symbol :=
  quoting_ite rfl (quoting_ite rfl rfl)

/-- A blank outside quotes opens none. -/
theorem step_of_separates {symbol : Char} (blank : Sql.separates symbol = true) :
    Quoting.outside.step symbol = .outside := by
  simp only [Sql.separates, Bool.or_eq_true, decide_eq_true_eq] at blank
  rcases blank with ((rfl | rfl) | rfl) | rfl <;> rfl

/-- A character that does not mislead leaves both readers with the same quotes. -/
theorem quoting_step {reading : SqlReading} {symbol : Char}
    (straight : reading.misleads symbol = false) :
    (reading.step symbol).quoting = reading.quoting.step symbol := by
  cases reading with
  | code quoting =>
      cases quoting with
      | outside => exact quoting_opened symbol
      | quoted mark =>
          rw [step]
          split
          case isTrue guards =>
            obtain ⟨rfl, rfl⟩ := guards
            rfl
          case isFalse => rfl
      | literal | escaped => rfl
  | guarded =>
      have notDouble : symbol ≠ '"' := by simpa [misleads] using straight
      exact (if_neg notDouble).symm
  | hyphen => exact quoting_ite rfl (quoting_opened symbol)
  | hyphens =>
      apply quoting_ite rfl
      split
      case isTrue blank => exact (step_of_separates blank).symm
      case isFalse => exact quoting_ite rfl (quoting_opened symbol)
  | slash => exact quoting_ite rfl (quoting_opened symbol)
  | line inner =>
      rw [step]
      split
      case isTrue isEnd =>
        obtain rfl : inner = .outside := by simpa [misleads, isEnd] using straight
        subst isEnd
        rfl
      case isFalse => rfl
  | block inner =>
      rw [step]
      split <;> rfl
  | star inner =>
      rw [step]
      split
      case isTrue isEnd =>
        obtain rfl : inner = .outside := by simpa [misleads, isEnd] using straight
        subst isEnd
        rfl
      case isFalse => split <;> rfl

/-- **As long as nothing misleads, both readers remember the same quotes.** -/
theorem quoting_after {reading : SqlReading} {text : List Char}
    (straight : reading.NothingMisleads text) :
    (reading.after text).quoting = reading.quoting.after text := by
  induction text generalizing reading with
  | nil => rfl
  | cons symbol rest ih =>
      obtain ⟨here, ofRest⟩ := straight
      rw [Quoting.after_cons, ← quoting_step here]
      exact ih ofRest

end SqlReading

end Inquiry.Code

/-! ## Words that write -/

namespace Inquiry.Check

open Inquiry.Code

/-- Code that cannot be read is refused for a word that writes when the search finds one. -/
theorem plan_eq_writeKeyword {parser : Sql.Parser} {catalog : Catalog} {given : GeneratedQuery}
    {keyword : String} (unread : parser (Text.trim given.code.toList) = none)
    (found : writeKeyword? (Text.trim given.code.toList) = some keyword) :
    plan catalog (.query given) parser = .error (.writeKeyword keyword) := by
  have stated : statements parser (Text.trim given.code.toList) =
      .error (.writeKeyword keyword) := by
    simp only [statements, unread, found]
  have notBlank : (Text.trim given.code.toList).isEmpty = false := by
    rw [List.isEmpty_eq_false_iff]
    intro blank
    rw [blank] at found
    simp [writeKeyword?, withoutLiterals, segments, segmentsFrom, writeWordFrom?] at found
  simp [plan, query, notBlank, stated, bind, Except.bind]

/-- Code that cannot be read is accepted for its tables when the search finds no word. -/
theorem plan_eq_ok_of_unread {parser : Sql.Parser} {catalog : Catalog} {given : GeneratedQuery}
    (unread : parser (Text.trim given.code.toList) = none)
    (notBlank : Text.trim given.code.toList ≠ [])
    (nothing : writeKeyword? (Text.trim given.code.toList) = none)
    (known : tables catalog (Text.trim given.code.toList) = .ok ()) :
    plan catalog (.query given) parser = .ok () := by
  have stated : statements parser (Text.trim given.code.toList) = .ok () := by
    simp only [statements, unread, nothing]
  exact query_eq_ok_iff.2 ⟨notBlank, stated, known⟩

/-- **A word that writes is seen through comments**: code that the parser cannot read is refused
where one stands as a word outside string literals, in a comment or behind it.  The word must not be
between single quotes in a comment, every comment in front of it must close the quotes it opens, and
no string in front of it may have a double quote guarded. -/
theorem plan_refuses_writeWord (parser : Sql.Parser) (catalog : Catalog) (given : GeneratedQuery)
    {before written after : List Char}
    (unread : parser (Text.trim given.code.toList) = none)
    (cut : given.code.toList = before ++ written ++ after) (writes : IsWriteWord written)
    (stands : StandsAsWord before after)
    (outside : (SqlReading.start.after before).inLiteral = false)
    (unquoted : (SqlReading.start.after before).inQuotedComment = false)
    (straight : SqlReading.start.NothingMisleads before) :
    ∃ keyword, IsWriteWord keyword.toList ∧
      plan catalog (.query given) parser = .error (.writeKeyword keyword) ∧
      (CheckFault.writeKeyword keyword).kind = .unsafeQuery := by
  have shown : (Quoting.outside.after before).hides = false := by
    have same : _ = Quoting.outside.after before := SqlReading.quoting_after straight
    rw [← same, SqlReading.hides_quoting, outside, unquoted, Bool.or_false]
  obtain ⟨front, back, frontBlank, backBlank, whole⟩ := exists_blanks_around given.code.toList
  obtain ⟨before, after, rfl, rfl, core⟩ := cut_of_blanks_around frontBlank backBlank
    writes.isTrimmed (whole.symm.trans cut)
  rw [Quoting.after_append, after_blanks frontBlank] at shown
  obtain ⟨keyword, found⟩ := Option.isSome_iff_exists.1
    (isSome_writeKeyword? core writes stands.of_append shown)
  obtain ⟨-, -, keywordWrites, -⟩ := writeKeyword?_eq_some found
  exact ⟨keyword, keywordWrites, plan_eq_writeKeyword unread found, rfl⟩

/-- Code with comments that close their quotes, in front of a statement that writes. -/
def commentedCode : GeneratedQuery where
  code := " SELECT 'drop' /* \"1\" */ -- or '2'\n; DROP a (( "
  referencedEntities := []

/-- The statement that writes is seen through the comments. -/
theorem plan_refuses_commentedCode :
    ∃ keyword, IsWriteWord keyword.toList ∧
      plan itemCatalog (.query commentedCode) .byRules = .error (.writeKeyword keyword) := by
  have cut : commentedCode.code.toList =
      " SELECT 'drop' /* \"1\" */ -- or '2'\n; ".toList ++ "DROP".toList ++ " a (( ".toList := by
    simp [commentedCode]
  obtain ⟨keyword, writes, refuses, -⟩ := plan_refuses_writeWord .byRules itemCatalog commentedCode
    (by decide +kernel) cut (.inl ⟨"drop".toList, by decide, by decide⟩)
    (by decide +kernel) (by decide +kernel) (by decide +kernel) (by decide +kernel)
  exact ⟨keyword, writes, refuses⟩

/-- A query is accepted although it cannot be read and a word that writes stands in it as a word
outside string literals. -/
def Overlooks (parser : Sql.Parser) (catalog : Catalog) (given : GeneratedQuery) : Prop :=
  parser (Text.trim given.code.toList) = none ∧
    (∃ before written after, given.code.toList = before ++ written ++ after ∧
      IsWriteWord written ∧ StandsAsWord before after ∧
      (SqlReading.start.after before).inLiteral = false) ∧
    plan catalog (.query given) parser = .ok ()

/-- Code with an apostrophe in a comment. -/
def apostropheCode : GeneratedQuery where
  code := "SELECT 1 FROM tabItem -- it's\n; DROP a (("
  referencedEntities := ["Item"]

/-- Code with a guarded double quote. -/
def guardedCode : GeneratedQuery where
  code := "SELECT 1 FROM tabItem WHERE \"\\\"'\"; DROP a (("
  referencedEntities := ["Item"]

/-- Behind an apostrophe in a comment, and behind a guarded double quote, a statement that writes
is overlooked. -/
theorem plan_overlooks_apostropheCode :
    Overlooks .byRules itemCatalog apostropheCode ∧
      Overlooks .byRules itemCatalog guardedCode := by
  have isDrop : IsWriteWord "DROP".toList := .inl ⟨"drop".toList, by decide, by decide⟩
  constructor
  · have unread : Sql.Parser.byRules (Text.trim apostropheCode.code.toList) = none := by
      decide +kernel
    have cut : apostropheCode.code.toList =
        "SELECT 1 FROM tabItem -- it's\n; ".toList ++ "DROP".toList ++ " a ((".toList := by
      simp [apostropheCode]
    refine ⟨unread, ⟨_, _, _, cut, isDrop, by decide +kernel, by decide +kernel⟩, ?_⟩
    exact plan_eq_ok_of_unread unread (by decide +kernel) (by decide +kernel)
      (tables_eq_ok_iff.2 (by decide +kernel))
  · have unread : Sql.Parser.byRules (Text.trim guardedCode.code.toList) = none := by
      decide +kernel
    have cut : guardedCode.code.toList =
        "SELECT 1 FROM tabItem WHERE \"\\\"'\"; ".toList ++ "DROP".toList ++ " a ((".toList := by
      simp [guardedCode]
    refine ⟨unread, ⟨_, _, _, cut, isDrop, by decide +kernel, by decide +kernel⟩, ?_⟩
    exact plan_eq_ok_of_unread unread (by decide +kernel) (by decide +kernel)
      (tables_eq_ok_iff.2 (by decide +kernel))

end Inquiry.Check
