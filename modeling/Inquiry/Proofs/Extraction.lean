import Inquiry.Plan.Document
import Inquiry.Proofs.JsonTexts

/-!
# The object in prose

Looking for the brace that closes an object, a reader keeps a count of open
objects and a place in or out of strings.  It has no grammar.  What makes it
stop at the right brace is that every phrase of the grammar leaves it as it
found it: outside strings, and with as many objects open (`Passes`).  Braces
that are text stand inside strings, where the reader minds only the quote that
ends the string and the backslash in front of a character.

So an object in prose is found whole, whatever it holds, when no brace opens in
front of it and nothing around it or in it looks like a code fence
(`object?_wrapped`).
-/

set_option autoImplicit false

namespace Inquiry.Extraction

open JsonText

/-! ## Stretches that are passed -/

/-- Reading on from inside an object, a text is passed: behind it the reader is outside strings
again and has as many objects open. -/
def Passes (text : List Char) : Prop :=
  ∀ (depth : Nat) (rest : List Char), 0 < depth →
    upToBalance? depth .outside (text ++ rest) =
      (upToBalance? depth .outside rest).map (text ++ ·)

theorem passes_nil : Passes [] := fun depth rest _ =>
  (Option.map_id_apply (x := upToBalance? depth .outside rest)).symm

theorem Passes.append {front back : List Char} (passesFront : Passes front)
    (passesBack : Passes back) : Passes (front ++ back) := by
  intro depth rest isOpen
  calc upToBalance? depth .outside (front ++ back ++ rest)
      = upToBalance? depth .outside (front ++ (back ++ rest)) := by rw [List.append_assoc]
    _ = ((upToBalance? depth .outside rest).map (back ++ ·)).map (front ++ ·) := by
        rw [passesFront depth _ isOpen, passesBack depth rest isOpen]
    _ = (upToBalance? depth .outside rest).map (front ++ back ++ ·) := by
        simp only [Option.map_map, Function.comp_def, List.append_assoc]

/-- Whether a character outside strings means nothing to the reader. -/
def isPlain (symbol : Char) : Bool :=
  symbol != '"' && symbol != openBrace && symbol != closeBrace

theorem passes_symbol {symbol : Char} (plain : isPlain symbol = true) : Passes [symbol] := by
  intro depth rest _
  simp only [isPlain, Bool.and_eq_true, bne_iff_ne] at plain
  obtain ⟨⟨notQuote, notOpen⟩, notClose⟩ := plain
  show upToBalance? depth .outside (symbol :: rest) = _
  rw [upToBalance?, if_neg notQuote, if_neg notOpen, if_neg notClose]
  rfl

theorem Passes.cons {symbol : Char} {text : List Char} (plain : isPlain symbol = true)
    (passes : Passes text) : Passes (symbol :: text) :=
  (passes_symbol plain).append passes

theorem passes_of_plain {text : List Char} (plain : ∀ symbol ∈ text, isPlain symbol = true) :
    Passes text := by
  induction text with
  | nil => exact passes_nil
  | cons symbol text ih =>
      rw [List.forall_mem_cons] at plain
      exact (ih plain.2).cons plain.1

/-- Objects inside objects are passed: the count goes up and comes down again. -/
theorem Passes.braces {body : List Char} (passes : Passes body) : Passes (Json.braces body) := by
  intro depth rest isOpen
  have closes : ¬ depth + 1 ≤ 1 := by omega
  calc upToBalance? depth .outside (Json.braces body ++ rest)
      = (upToBalance? (depth + 1) .outside (body ++ closeBrace :: rest)).map
          (openBrace :: ·) := by
        simp [Json.braces, upToBalance?, openBrace, closeBrace]
    _ = (((upToBalance? depth .outside rest).map (closeBrace :: ·)).map (body ++ ·)).map
          (openBrace :: ·) := by
        rw [passes _ _ (Nat.succ_pos depth)]
        simp [upToBalance?, closes, openBrace, closeBrace]
    _ = (upToBalance? depth .outside rest).map (Json.braces body ++ ·) := by
        simp [Json.braces, Function.comp_def, openBrace, closeBrace]

/-- With no object open yet, the brace that closes an object is the last that is read. -/
theorem upToBalance?_braces {body : List Char} (passes : Passes body) (rest : List Char) :
    upToBalance? 0 .outside (Json.braces body ++ rest) = some (Json.braces body) := by
  calc upToBalance? 0 .outside (Json.braces body ++ rest)
      = (upToBalance? 1 .outside (body ++ closeBrace :: rest)).map (openBrace :: ·) := by
        simp [Json.braces, upToBalance?, openBrace, closeBrace]
    _ = some (Json.braces body) := by
        rw [passes _ _ Nat.one_pos]
        simp [upToBalance?, Json.braces, openBrace, closeBrace]

/-! ## Strings -/

/-- Whether a character inside a string means nothing to the reader. -/
def isPlainInside (symbol : Char) : Bool := symbol != '"' && symbol != '\\'

theorem upToBalance?_inside_cons {symbol : Char} (plain : isPlainInside symbol = true)
    (depth : Nat) (rest : List Char) :
    upToBalance? depth .inside (symbol :: rest) =
      (upToBalance? depth .inside rest).map (symbol :: ·) := by
  simp only [isPlainInside, Bool.and_eq_true, bne_iff_ne] at plain
  rw [upToBalance?, if_neg plain.2, if_neg plain.1]

theorem upToBalance?_inside_append {text : List Char}
    (plain : ∀ symbol ∈ text, isPlainInside symbol = true) (depth : Nat) (rest : List Char) :
    upToBalance? depth .inside (text ++ rest) =
      (upToBalance? depth .inside rest).map (text ++ ·) := by
  induction text with
  | nil => exact (Option.map_id_apply (x := upToBalance? depth .inside rest)).symm
  | cons symbol text ih =>
      rw [List.forall_mem_cons] at plain
      rw [List.cons_append, upToBalance?_inside_cons plain.1, ih plain.2, Option.map_map]
      rfl

theorem isPlainInside_of_isHexDigit {symbol : Char} (isHexDigit : IsHexDigit symbol) :
    isPlainInside symbol = true := by
  simp only [isPlainInside, Bool.and_eq_true, bne_iff_ne]
  constructor <;> rintro rfl <;> revert isHexDigit <;> unfold IsHexDigit <;> decide

/-- The quote behind what stands in a string is the first that ends it. -/
theorem upToBalance?_inside_body {body : List Char} (isBody : IsStringBody body) (depth : Nat)
    (rest : List Char) :
    upToBalance? depth .inside (body ++ '"' :: rest) =
      (upToBalance? depth .outside rest).map (body ++ '"' :: ·) := by
  induction isBody with
  | nil => rfl
  | symbol notQuote notBackslash _ _ ih =>
      rw [List.cons_append, upToBalance?_inside_cons (by simp [isPlainInside, *]), ih,
        Option.map_map]
      rfl
  | escaped _ _ ih =>
      simp only [List.cons_append, upToBalance?, if_pos, ih, Option.map_map]
      rfl
  | code _ areHexDigits _ ih =>
      have plain := fun digit member => isPlainInside_of_isHexDigit (areHexDigits digit member)
      simp only [List.cons_append, List.append_assoc, upToBalance?, if_pos,
        upToBalance?_inside_append plain, ih, Option.map_map]
      rfl

/-- A string is passed, braces, quotes and backslashes in it and all. -/
theorem passes_string {body : List Char} (isBody : IsStringBody body) :
    Passes ('"' :: (body ++ ['"'])) := by
  intro depth rest _
  calc upToBalance? depth .outside ('"' :: (body ++ ['"']) ++ rest)
      = (upToBalance? depth .inside (body ++ '"' :: rest)).map ('"' :: ·) := by
        simp [upToBalance?]
    _ = (upToBalance? depth .outside rest).map ('"' :: (body ++ ['"']) ++ ·) := by
        rw [upToBalance?_inside_body isBody, Option.map_map]
        simp [Function.comp_def]

/-! ## Phrases -/

theorem passes_of_isGap {gap : List Char} (isGap : IsGap gap) : Passes gap :=
  passes_of_plain fun symbol member => by
    have isSpace := isGap symbol member
    simp only [Written.isSpace, Bool.or_eq_true, decide_eq_true_eq] at isSpace
    rcases isSpace with ((rfl | rfl) | rfl) | rfl <;> decide

theorem isPlain_of_isDigit {symbol : Char} (isDigit : symbol.isDigit = true) :
    isPlain symbol = true := by
  simp only [isPlain, Bool.and_eq_true, bne_iff_ne]
  refine ⟨⟨?_, ?_⟩, ?_⟩ <;> rintro rfl <;> revert isDigit <;> decide

theorem passes_of_isNumeral {digits : List Char} (isNumeral : IsNumeral digits) : Passes digits :=
  passes_of_plain fun symbol member => isPlain_of_isDigit (isNumeral.2 symbol member)

theorem passes_sign {sign : List Char} (isSign : sign = [] ∨ sign = ['+'] ∨ sign = ['-']) :
    Passes sign := by
  rcases isSign with rfl | rfl | rfl
  · exact passes_nil
  · exact passes_symbol (by decide)
  · exact passes_symbol (by decide)

theorem passes_of_isWhole {whole : List Char} (isWhole : IsWhole whole) : Passes whole := by
  cases isWhole with
  | zero => exact passes_symbol (by decide)
  | digits isNumeral => exact passes_of_isNumeral isNumeral

theorem passes_of_isFraction {fraction : List Char} (isFraction : IsFraction fraction) :
    Passes fraction := by
  cases isFraction with
  | none => exact passes_nil
  | point isNumeral => exact (passes_of_isNumeral isNumeral).cons (by decide)

theorem passes_of_isExponent {exponent : List Char} (isExponent : IsExponent exponent) :
    Passes exponent := by
  cases isExponent with
  | none => exact passes_nil
  | @power mark sign digits isMark isSign isNumeral =>
      have plainMark : isPlain mark = true := by
        simp only [List.mem_cons, List.not_mem_nil, or_false] at isMark
        rcases isMark with rfl | rfl <;> decide
      have passesSign : Passes sign := passes_sign (by simpa using isSign)
      exact (passesSign.append (passes_of_isNumeral isNumeral)).cons plainMark

theorem passes_of_isNumber {number : List Char} (isNumber : IsNumber number) : Passes number := by
  cases isNumber with
  | @parts sign _ _ _ isSign isWhole isFraction isExponent =>
      have isSign : sign = [] ∨ sign = ['-'] := by simpa using isSign
      have passesSign : Passes sign := passes_sign (isSign.imp_right .inr)
      exact passesSign.append ((passes_of_isWhole isWhole).append
        ((passes_of_isFraction isFraction).append (passes_of_isExponent isExponent)))

/-- Every phrase of the grammar is passed. -/
theorem passes_of_spells {phrase : Phrase} {text : List Char} (spells : Spells phrase text) :
    Passes text := by
  -- One case for each production.  Strings and objects are the only ones that move the reader;
  -- the others put passed stretches one behind the other.
  induction spells with
  | @word word isWord =>
      simp only [List.mem_cons, List.not_mem_nil, or_false] at isWord
      rcases isWord with rfl | rfl | rfl <;>
        exact passes_of_plain (List.all_eq_true.1 (by decide))
  | number isNumber => exact passes_of_isNumber isNumber
  | string isBody => exact passes_string isBody
  | emptyArray isGap =>
      exact ((passes_of_isGap isGap).append (passes_symbol (by decide))).cons (by decide)
  | array _ ih => exact (ih.append (passes_symbol (by decide))).cons (by decide)
  | ofObject _ ih => exact ih
  | emptyObject isGap => exact (passes_of_isGap isGap).braces
  | object _ ih => exact ih.braces
  | item isBefore _ isAfter ih =>
      exact (passes_of_isGap isBefore).append (ih.append (passes_of_isGap isAfter))
  | lastItem _ ih => exact ih
  | nextItem _ _ ihItem ihItems => exact ihItem.append (ihItems.cons (by decide))
  | member isBefore isName isBetween _ ih =>
      have plainColon : isPlain ':' = true := by decide
      have passesRest := (passes_of_isGap isBetween).append (ih.cons plainColon)
      have passes := (passes_of_isGap isBefore).append ((passes_string isName).append passesRest)
      simpa using passes
  | lastMember _ ih => exact ih
  | nextMember _ _ ihMember ihMembers => exact ihMember.append (ihMembers.cons (by decide))

/-- An object of the grammar is read to its end and no further. -/
theorem upToBalance?_of_spells {text : List Char} (spells : Spells .object text)
    (rest : List Char) : upToBalance? 0 .outside (text ++ rest) = some text := by
  cases spells with
  | emptyObject isGap => exact upToBalance?_braces (passes_of_isGap isGap) rest
  | object spellsMembers => exact upToBalance?_braces (passes_of_spells spellsMembers) rest

theorem exists_of_spells_object {text : List Char} (spells : Spells .object text) :
    ∃ rest, text = openBrace :: rest := by
  cases spells with
  | emptyObject => exact ⟨_, rfl⟩
  | object => exact ⟨_, rfl⟩

/-! ## Objects in prose -/

/-- Without a fence there is no fenced object. -/
theorem fenced?_eq_none {text : List Char} (noFence : ¬ fence <:+: text) : fenced? text = none := by
  induction text with
  | nil => rfl
  | cons symbol rest ih =>
      rw [List.infix_cons_iff, not_or] at noFence
      have notHere : fence.isPrefixOf? (symbol :: rest) = none := by
        cases found : fence.isPrefixOf? (symbol :: rest) with
        | none => rfl
        | some after => exact absurd ⟨after, Text.append_of_isPrefixOf? found⟩ noFence.1
      simp only [fenced?, fencedHere?, notHere]
      exact ih noFence.2

/-- The object at the first opening brace is all of it. -/
theorem balanced?_wrapped {before text after : List Char} (spells : Spells .object text)
    (noBrace : openBrace ∉ before) : balanced? (before ++ text ++ after) = some text := by
  have notBraces : ∀ symbol ∈ before, (symbol != openBrace) = true := by
    intro symbol member
    exact bne_iff_ne.2 fun isBrace => noBrace (isBrace ▸ member)
  have skipped : (before ++ (text ++ after)).dropWhile (· != openBrace) = text ++ after := by
    obtain ⟨rest, rfl⟩ := exists_of_spells_object spells
    rw [List.dropWhile_append_of_pos notBraces, List.cons_append, List.dropWhile_cons_of_neg]
    simp
  rw [balanced?, List.append_assoc, skipped, upToBalance?_of_spells spells]

theorem object?_eq_some {before text after : List Char} (spells : Spells .object text)
    (noBrace : openBrace ∉ before) (noFence : ¬ fence <:+: before ++ text ++ after) :
    object? (before ++ text ++ after) = some text := by
  rw [object?, fenced?_eq_none noFence, balanced?_wrapped spells noBrace]

/-- The document in an answer whose object is found. -/
theorem ofAnswer_of_object? {answer text : List Char} (found : object? answer = some text) :
    PlanDocument.ofAnswer (String.ofList answer) =
      (PlanDocument.ofJsonText? text).elim (.error .malformed) .ok := by
  simp only [PlanDocument.ofAnswer, String.toList_ofList, found]
  cases PlanDocument.ofJsonText? text <;> rfl

/-- **An object in prose is found whole**, and the document of the answer is the one of the object
alone: no brace opens in front of the object, and nothing in the answer looks like a fence. -/
theorem object?_wrapped {before text after : List Char} (spells : Spells .object text)
    (noBrace : openBrace ∉ before) (noFence : ¬ fence <:+: before ++ text ++ after) :
    object? (before ++ text ++ after) = some text ∧
      PlanDocument.ofAnswer (String.ofList (before ++ text ++ after)) =
        (PlanDocument.ofJsonText? text).elim (.error .malformed) .ok ∧
      PlanDocument.ofAnswer (String.ofList (before ++ text ++ after)) =
        PlanDocument.ofAnswer (String.ofList text) := by
  have found := object?_eq_some spells noBrace noFence
  have foundAlone : object? text = some text := by
    have noFenceAlone : ¬ fence <:+: [] ++ text ++ [] := fun inside =>
      noFence (.trans (by simpa using inside) ⟨before, after, rfl⟩)
    simpa using object?_eq_some spells List.not_mem_nil noFenceAlone
  exact ⟨found, ofAnswer_of_object? found,
    (ofAnswer_of_object? found).trans (ofAnswer_of_object? foundAlone).symm⟩

/-- An object with braces, quotes and backslashes in its strings, and an object inside it. -/
theorem object?_wrapped_nested :
    let before := "Sure: ".toList
    let text :=
      "\x7b\"code\": \"SELECT '\x7d' \\\" FROM `tabItem`\", \"more\": \x7b\"a\": 1\x7d\x7d".toList
    let after := " and `more` \x7b".toList
    Spells .object text ∧ openBrace ∉ before ∧ ¬ fence <:+: before ++ text ++ after ∧
      object? (before ++ text ++ after) = some text := by
  intro before text after
  have spells : Spells .object text :=
    Written.spells_object_of_read (by decide +kernel) (by decide +kernel) (by decide +kernel)
  have noBrace : openBrace ∉ before := by decide
  have noFence : ¬ fence <:+: before ++ text ++ after := by decide +kernel
  exact ⟨spells, noBrace, noFence, (object?_wrapped spells noBrace noFence).1⟩

end Inquiry.Extraction
