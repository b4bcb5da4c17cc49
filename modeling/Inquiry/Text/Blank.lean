/-!
# Blank characters, trimming and words

A blank is a character of the White_Space property.  Trimming removes blanks
at the ends of a text, and the words of a text are the longest stretches
between blanks.  All of it is on lists of characters; the functions on strings
are the same ones between two conversions.
-/

set_option autoImplicit false

namespace Inquiry.Text

/-! ## The class -/

/-- The blanks above the first 128 characters. -/
def wideBlanks : List Nat :=
  [0x85, 0xa0, 0x1680, 0x2000, 0x2001, 0x2002, 0x2003, 0x2004, 0x2005, 0x2006, 0x2007, 0x2008,
   0x2009, 0x200a, 0x2028, 0x2029, 0x202f, 0x205f, 0x3000]

/-- A blank is a character of the White_Space property. -/
def isBlank (symbol : Char) : Bool :=
  symbol = ' ' || (0x09 ≤ symbol.toNat && symbol.toNat ≤ 0x0d) || wideBlanks.contains symbol.toNat

/-! ## Trimming -/

/-- The text from its first character that fails the test. -/
def trimStartWhere (drop : Char → Bool) (text : List Char) : List Char :=
  text.dropWhile drop

/-- The text up to its last character that fails the test. -/
def trimEndWhere (drop : Char → Bool) (text : List Char) : List Char :=
  (text.reverse.dropWhile drop).reverse

/-- The text between its first and its last character that fail the test. -/
def trimWhere (drop : Char → Bool) (text : List Char) : List Char :=
  trimEndWhere drop (trimStartWhere drop text)

/-- The text without the blanks at its start. -/
def trimStart (text : List Char) : List Char := trimStartWhere isBlank text

/-- The text without the blanks at its ends. -/
def trim (text : List Char) : List Char := trimWhere isBlank text

/-- A string without the blanks at its ends. -/
def trimmed (text : String) : String := String.ofList (trim text.toList)

/-! ## Pieces and words -/

/-- The pieces of a text between the characters that pass the test, empty ones included. -/
def splitWhere (isCut : Char → Bool) : List Char → List (List Char)
  | [] => [[]]
  | symbol :: rest =>
      if isCut symbol then [] :: splitWhere isCut rest
      else
        match splitWhere isCut rest with
        | [] => [[symbol]]
        | piece :: pieces => (symbol :: piece) :: pieces

/-- The longest stretches of a text without a blank, in order. -/
def words (text : List Char) : List (List Char) :=
  (splitWhere isBlank text).filter (fun piece => !piece.isEmpty)

/-- A text without any of its blanks. -/
def withoutBlanks (text : List Char) : List Char :=
  text.filter (fun symbol => !isBlank symbol)

/-! ## Laws -/

/-- The code points of the blanks. -/
def blankCodes : List Nat := 0x20 :: (List.range' 9 5 ++ wideBlanks)

/-- A blank is a character with one of these code points. -/
theorem isBlank_iff {symbol : Char} : isBlank symbol = true ↔ symbol.toNat ∈ blankCodes := by
  simp only [isBlank, blankCodes, Bool.or_eq_true, Bool.and_eq_true, decide_eq_true_eq,
    List.contains_iff_mem, List.mem_cons, List.mem_append, List.mem_range'_1, or_assoc]
  refine or_congr ⟨fun same => same ▸ rfl, fun same => Char.toNat_inj.1 same⟩ (or_congr ?_ Iff.rfl)
  omega

/-- A text that does not begin with a dropped character keeps its start. -/
theorem trimEndWhere_cons {drop : Char → Bool} {symbol : Char} (kept : drop symbol = false)
    (rest : List Char) :
    trimEndWhere drop (symbol :: rest) = symbol :: trimEndWhere drop rest := by
  simp only [trimEndWhere, List.reverse_cons, List.dropWhile_append]
  split
  · simp_all [List.dropWhile]
  · simp

/-- Dropping at the start again drops nothing. -/
theorem trimStartWhere_trimStartWhere (drop : Char → Bool) (text : List Char) :
    trimStartWhere drop (trimStartWhere drop text) = trimStartWhere drop text := by
  induction text with
  | nil => rfl
  | cons symbol rest ih =>
      by_cases dropped : drop symbol
      · simpa [trimStartWhere, List.dropWhile, dropped] using ih
      · simp [trimStartWhere, List.dropWhile, dropped]

/-- Dropping at both ends again drops nothing. -/
theorem trimWhere_trimWhere (drop : Char → Bool) (text : List Char) :
    trimWhere drop (trimWhere drop text) = trimWhere drop text := by
  have atEnd : ∀ text, trimEndWhere drop (trimEndWhere drop text) = trimEndWhere drop text := by
    intro text
    have := trimStartWhere_trimStartWhere drop text.reverse
    simp only [trimStartWhere] at this
    simp [trimEndWhere, this]
  have atStart : trimStartWhere drop (trimStartWhere drop text) = trimStartWhere drop text :=
    trimStartWhere_trimStartWhere drop text
  simp only [trimWhere]
  generalize trimStartWhere drop text = front at *
  cases front with
  | nil => rfl
  | cons symbol rest =>
      by_cases dropped : drop symbol
      · have shorter := (List.dropWhile_sublist (l := rest) (p := drop)).length_le
        rw [trimStartWhere, List.dropWhile_cons_of_pos dropped] at atStart
        have same := congrArg List.length atStart
        rw [List.length_cons] at same
        omega
      · rw [Bool.not_eq_true] at dropped
        rw [trimEndWhere_cons dropped, trimStartWhere,
          List.dropWhile_cons_of_neg (by simp [dropped]), trimEndWhere_cons dropped, atEnd]

/-- Trimming a trimmed string changes nothing. -/
theorem trimmed_trimmed (text : String) : trimmed (trimmed text) = trimmed text := by
  simp [trimmed, trim, trimWhere_trimWhere]

end Inquiry.Text
