import Inquiry.Proofs.Binding
import Inquiry.Store.Statement
import Mathlib.Data.List.TakeWhile

/-!
# The words of a text

The record store cuts the text of a statement into words: plain ones, numbers,
signs and quoted names.  A word is read as far as it goes, so what follows it
matters, and a quote swallows everything up to the next one.  A blank stops all
but quotes.  So the words of a text without quotes do not depend on what follows,
as long as that stands apart from it (`wordsOf_append`); and a name that is
written between double quotes, with the quotes in it doubled, is read as one
word with just this name, whatever the name holds (`wordsOf_quotedName`).
-/

set_option autoImplicit false

namespace Inquiry

namespace StatementWord

/-! ## Words without their places -/

/-- What a word is and how it is written, wherever it stands. -/
def lexeme (word : StatementWord) : WordKind × List Char := (word.kind, word.written)

/-- The words of a text, wherever they stand. -/
def wordsOf (text : List Char) : List (WordKind × List Char) := (ofText text).map lexeme

theorem one_le_wordAt (symbol : Char) (rest : List Char) : 1 ≤ (wordAt symbol rest).2 := by
  rw [wordAt]
  repeat' split
  all_goals simp

/-- What is left after a word is shorter. -/
theorem length_drop_wordAt_le (symbol : Char) (rest : List Char) :
    ((symbol :: rest).drop (wordAt symbol rest).2).length ≤ rest.length := by
  have advances := one_le_wordAt symbol rest
  rw [List.length_drop, List.length_cons]
  omega

/-- Neither the place of a text nor the number of steps matters for its words, if there are enough
steps. -/
theorem map_lexeme_wordsWithin {steps other : Nat} {text : List Char}
    (enough : text.length ≤ steps) (alsoEnough : text.length ≤ other) (offset place : Nat) :
    (wordsWithin steps offset text).map lexeme = (wordsWithin other place text).map lexeme := by
  induction steps generalizing other offset place text with
  | zero =>
      obtain rfl := List.eq_nil_of_length_eq_zero (Nat.le_zero.1 enough)
      simp [wordsWithin]
  | succ steps ih =>
      cases text with
      | nil => simp [wordsWithin]
      | cons symbol rest =>
          cases other with
          | zero => exact absurd alsoEnough (Nat.not_succ_le_zero _)
          | succ other =>
              simp only [List.length_cons, Nat.succ_le_succ_iff] at enough alsoEnough
              rw [wordsWithin, wordsWithin]
              split
              · exact ih enough alsoEnough _ _
              · have shorter := length_drop_wordAt_le symbol rest
                exact congrArg (List.cons _) (ih (Nat.le_trans shorter enough)
                  (Nat.le_trans shorter alsoEnough) _ _)

@[simp] theorem wordsOf_nil : wordsOf [] = [] := rfl

/-- A blank is no part of a word. -/
theorem wordsOf_blank {symbol : Char} (isBlank : SqlValue.isNumberBlank symbol = true)
    (rest : List Char) : wordsOf (symbol :: rest) = wordsOf rest := by
  rw [wordsOf, ofText, List.length_cons, wordsWithin, if_pos isBlank]
  exact map_lexeme_wordsWithin (Nat.le_refl _) (Nat.le_refl _) _ _

/-- A text that does not begin with a blank begins with a word. -/
theorem wordsOf_cons {symbol : Char} (notBlank : ¬ SqlValue.isNumberBlank symbol = true)
    (rest : List Char) :
    wordsOf (symbol :: rest) =
      ((wordAt symbol rest).1, (symbol :: rest).take (wordAt symbol rest).2) ::
        wordsOf ((symbol :: rest).drop (wordAt symbol rest).2) := by
  rw [wordsOf, ofText, List.length_cons, wordsWithin, if_neg notBlank]
  exact congrArg _
    (map_lexeme_wordsWithin (length_drop_wordAt_le symbol rest) (Nat.le_refl _) _ _)

/-! ## Text without quotes -/

/-- Whether a character opens a quoted word. -/
def isQuote (symbol : Char) : Bool :=
  symbol = '\'' || symbol = '"' || symbol = '`' || symbol = '['

/-- A text that stands apart from what is in front of it: it is empty or begins with a blank. -/
def Apart (text : List Char) : Prop := ∀ symbol ∈ text.head?, symbol = ' '

theorem apart_nil : Apart [] := nofun

theorem apart_blank (rest : List Char) : Apart (' ' :: rest) :=
  fun _ isFirst => (Option.some.inj isFirst).symm

theorem Apart.append {text rest : List Char} (apart : Apart text) (restApart : Apart rest) :
    Apart (text ++ rest) := by
  cases text with
  | nil => exact restApart
  | cons symbol others => exact apart

/-- What is read up to a character that a blank is not does not depend on a text that stands
apart. -/
theorem takeWhile_append_of_apart {test : Char → Bool} (stops : test ' ' = false)
    {rest : List Char} (apart : Apart rest) (text : List Char) :
    (text ++ rest).takeWhile test = text.takeWhile test := by
  have none : rest.takeWhile test = [] := by
    cases rest with
    | nil => rfl
    | cons symbol others =>
        rw [apart symbol rfl, List.takeWhile_cons, if_neg (by rw [stops]; exact Bool.false_ne_true)]
  rw [List.takeWhile_append, none, List.append_nil]
  split
  case isTrue all =>
    exact ((List.takeWhile_prefix test).eq_of_length all).symm
  case isFalse => rfl

/-- A word that is not quoted does not depend on a text that stands apart. -/
theorem wordAt_append {symbol : Char} (unquoted : isQuote symbol = false) (text : List Char)
    {rest : List Char} (apart : Apart rest) :
    wordAt symbol (text ++ rest) = wordAt symbol text := by
  have doubled : (text ++ rest).head? = some '=' ↔ text.head? = some '=' := by
    cases text with
    | nil =>
        refine iff_of_false (fun isFirst => ?_) nofun
        exact absurd (apart '=' isFirst) (by decide)
    | cons other others => rfl
  rw [wordAt, wordAt, ← isQuote, unquoted, if_neg Bool.false_ne_true, if_neg Bool.false_ne_true,
    takeWhile_append_of_apart (by decide) apart, takeWhile_append_of_apart (by decide) apart]
  simp only [doubled]

theorem wordAt_le {symbol : Char} (unquoted : isQuote symbol = false) (text : List Char) :
    (wordAt symbol text).2 ≤ text.length + 1 := by
  rw [wordAt, ← isQuote, unquoted, if_neg Bool.false_ne_true]
  split
  · have := (List.takeWhile_prefix continues (l := text)).length_le
    simp only
    omega
  · split
    · have := (List.takeWhile_prefix (fun digit => digit.isDigit || digit = '.')
        (l := text)).length_le
      simp only
      omega
    · split
      case isTrue isDoubled =>
        cases text with
        | nil => simp at isDoubled
        | cons => simp
      case isFalse => split <;> simp

theorem unquoted_of_all {text : List Char}
    (unquoted : text.all (fun symbol => !isQuote symbol) = true) :
    ∀ symbol ∈ text, isQuote symbol = false := by
  simpa using unquoted

/-- **The words of a text without quotes do not depend on a text that stands apart.** -/
theorem wordsOf_append {piece rest : List Char}
    (unquoted : ∀ symbol ∈ piece, isQuote symbol = false) (apart : Apart rest) :
    wordsOf (piece ++ rest) = wordsOf piece ++ wordsOf rest := by
  induction length : piece.length using Nat.strongRecOn generalizing piece with
  | ind size ih =>
    cases piece with
    | nil => rfl
    | cons symbol others =>
        have firstUnquoted := unquoted symbol (List.mem_cons_self ..)
        by_cases isBlank : SqlValue.isNumberBlank symbol = true
        · rw [List.cons_append, wordsOf_blank isBlank, wordsOf_blank isBlank]
          exact ih others.length (by rw [← length]; exact Nat.lt_succ_self _)
            (fun later member => unquoted later (List.mem_cons_of_mem _ member)) rfl
        · have within := wordAt_le firstUnquoted others
          rw [List.cons_append, wordsOf_cons isBlank, wordsOf_cons isBlank,
            wordAt_append firstUnquoted others apart, ← List.cons_append,
            List.take_append_of_le_length within, List.drop_append_of_le_length within,
            List.cons_append]
          refine congrArg _ (ih _ ?_ (fun later member => ?_) rfl)
          · rw [← length]
            exact Nat.lt_succ_of_le (length_drop_wordAt_le symbol others)
          · exact unquoted later (List.mem_of_mem_drop member)

/-- A digit is neither a blank nor a quote, and begins no plain word. -/
theorem of_isDigit {symbol : Char} (isDigit : symbol.isDigit = true) :
    SqlValue.isNumberBlank symbol = false ∧ isQuote symbol = false ∧ starts symbol = false := by
  have between := Reading.toNat_of_isDigit isDigit
  have checked : ∀ code ≤ 57, 48 ≤ code → SqlValue.isNumberBlank (Char.ofNat code) = false ∧
      isQuote (Char.ofNat code) = false ∧ starts (Char.ofNat code) = false := by
    decide
  rw [← Char.ofNat_toNat symbol]
  exact checked _ between.2 between.1

/-- Digits are one number. -/
theorem wordsOf_digits {digits : List Char} (areDigits : ∀ symbol ∈ digits, symbol.isDigit = true)
    (some : digits ≠ []) : wordsOf digits = [(.number, digits)] := by
  obtain ⟨first, others, rfl⟩ := List.exists_cons_of_ne_nil some
  obtain ⟨isDigit, othersDigits⟩ := List.forall_mem_cons.1 areDigits
  obtain ⟨notBlank, -, notStarts⟩ := of_isDigit isDigit
  have all : others.takeWhile (fun digit => digit.isDigit || digit = '.') = others :=
    List.takeWhile_eq_self_iff.2 fun symbol member => by rw [othersDigits symbol member]; rfl
  have word : wordAt first others = (.number, (first :: others).length) := by
    rw [wordAt, notStarts, if_neg Bool.false_ne_true, if_pos isDigit, all, List.length_cons,
      Nat.add_comm]
  rw [wordsOf_cons (by rw [notBlank]; exact Bool.false_ne_true), word, List.take_length,
    List.drop_length]
  rfl

/-! ## Quoted names -/

theorem quotedBody?_cons_of_ne {quote symbol : Char} (isOther : symbol ≠ quote)
    (rest : List Char) :
    quotedBody? quote (symbol :: rest) =
      (quotedBody? quote rest).map fun (body, count) => (symbol :: body, count + 1) := by
  cases rest with
  | nil => simp [quotedBody?, isOther]
  | cons next rest => rw [quotedBody?, if_neg isOther]

/-- A text whose quotes are doubled is read up to the quote after it. -/
theorem quotedBody?_doubledQuotes (text : List Char) {rest : List Char} (apart : Apart rest) :
    quotedBody? '"' (doubledQuotes text ++ '"' :: rest) =
      some (text, (doubledQuotes text).length + 1) := by
  induction text with
  | nil =>
      cases rest with
      | nil => rfl
      | cons symbol others =>
          obtain rfl := apart symbol rfl
          rfl
  | cons symbol others ih =>
      by_cases isQuote : symbol = '"'
      · rw [isQuote, doubledQuotes_cons_quote, List.cons_append, List.cons_append, quotedBody?,
          if_pos rfl, if_pos rfl, ih]
        rfl
      · rw [doubledQuotes_cons_of_ne isQuote, List.cons_append, quotedBody?_cons_of_ne isQuote, ih]
        rfl

/-- **A quoted name is one word, whatever stands in it.** -/
theorem wordsOf_quotedName (name : String) {rest : List Char} (apart : Apart rest) :
    wordsOf ((quotedName name).toList ++ rest) =
      (.doubtful name, (quotedName name).toList) :: wordsOf rest := by
  have word : wordAt '"' (doubledQuotes name.toList ++ '"' :: rest) =
      (.doubtful name, (doubledQuotes name.toList).length + 2) := by
    have body := quotedBody?_doubledQuotes name.toList apart
    simp [wordAt, starts, body, quotedKind]
  have written : (quotedName name).toList.length = (doubledQuotes name.toList).length + 2 := by
    simp [toList_quotedName]
  have shape : (quotedName name).toList ++ rest =
      '"' :: (doubledQuotes name.toList ++ '"' :: rest) := by
    simp [toList_quotedName]
  rw [shape, wordsOf_cons (by decide), word, ← shape, ← written, List.take_left', List.drop_left']
  · rfl
  · rfl

end StatementWord

end Inquiry
