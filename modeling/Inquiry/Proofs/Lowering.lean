import Inquiry.Detection
import Inquiry.Proofs.Outcomes
import Mathlib.Data.List.TakeWhile

/-!
# Lower case word by word

A capital sigma at the end of a word is lowered to a final sigma, so the lower
case of a text is not made character by character.  It is made word by word all
the same.  A blank has no case and is not passed over in the search for a letter
that has one, so what stands behind it does not matter for what stands before
it, nor the other way round (`lower_append_blank`).  And lowering neither moves a
blank nor makes a new one.  Hence a text can be lowered before it is cut into
words or after it (`words_lower`), and before words are joined or after it
(`lower_joinWords`).
-/

set_option autoImplicit false

namespace Inquiry.Text

/-! ## Single characters -/

section

-- The table is long, and nothing here depends on what is in it.
attribute [local irreducible] lowerRuns

theorem findRun_succ (code steps low high : Nat) :
    findRun code (steps + 1) low high =
      if high ≤ low then none
      else
        match lowerRuns[(low + high) / 2]? with
        | none => none
        | some run =>
            if code < run.first then findRun code steps low ((low + high) / 2)
            else if run.last < code then findRun code steps ((low + high) / 2 + 1) high
            else some run := rfl

/-- What is found among the runs is a run that holds the code point. -/
theorem of_findRun {code steps low high : Nat} {run : CaseRun}
    (found : findRun code steps low high = some run) :
    run ∈ lowerRuns ∧ run.first ≤ code ∧ code ≤ run.last := by
  induction steps generalizing low high with
  | zero => cases found
  | succ steps ih =>
      rw [findRun_succ] at found
      split at found
      · cases found
      · split at found
        · cases found
        case h_2 here isHere =>
          split at found
          · exact ih found
          · split at found
            · exact ih found
            · cases found
              exact ⟨Array.mem_of_getElem? isHere, by omega, by omega⟩

end

/-- A run moves a code point. -/
structure CaseRun.Moves (run : CaseRun) (code : Nat) : Prop where
  low : run.first ≤ code
  high : code ≤ run.last
  onStep : (code - run.first) % run.step = 0

/-- Runs move their code points to those of characters. -/
theorem toNat_of_moves {run : CaseRun} (member : run ∈ lowerRuns) {code : Nat}
    (moves : run.Moves code) :
    ((Char.ofNat (code + run.shift).toNat).toNat : Int) = code + run.shift := by
  have checked : ∀ run ∈ lowerRuns.toList, 0 < run.first + run.shift ∧
      (run.last + run.shift < 0xd800 ∨
        0xdfff < run.first + run.shift ∧ run.last + run.shift < 0x110000) := by
    decide +kernel
  obtain ⟨positive, valid⟩ := checked run (Array.mem_toList_iff.2 member)
  obtain ⟨low, high, -⟩ := moves
  have isCode : (code + run.shift).toNat.isValidChar := by
    rcases valid with below | ⟨above, below⟩
    · exact .inl (by omega)
    · exact .inr ⟨by omega, by omega⟩
  have same : (Char.ofNat (code + run.shift).toNat).toNat = (code + run.shift).toNat := by
    rw [Char.ofNat, dif_pos isCode]
    rfl
  omega

theorem mem_lowerRuns_latin : ⟨0x41, 0x5a, 1, 32⟩ ∈ lowerRuns :=
  Array.mem_toList_iff.1 (List.mem_cons_self ..)

/-- Lower case leaves a character as it is, or takes the dots of a capital I apart, or moves it
with a run. -/
theorem of_mem_lowerSymbol {symbol lowered : Char} (member : lowered ∈ lowerSymbol symbol) :
    (lowered = symbol ∧ lowerSymbol symbol = [symbol]) ∨ lowered ∈ ['i', Char.ofNat 0x307] ∨
      ∃ run ∈ lowerRuns, run.Moves symbol.toNat ∧
        (lowered.toNat : Int) = symbol.toNat + run.shift := by
  by_cases isSame : lowerSymbol symbol = [symbol]
  · exact .inl ⟨List.mem_singleton.1 (isSame ▸ member), isSame⟩
  · right
    rw [lowerSymbol] at member isSame
    split at member
    case isTrue isSmall =>
      right
      obtain rfl := List.mem_singleton.1 member
      rw [if_pos isSmall] at isSame
      have checked : ∀ code < 128, [(Char.ofNat code).toLower] ≠ [Char.ofNat code] →
          0x41 ≤ code ∧ code ≤ 0x5a ∧ (Char.ofNat code).toLower.toNat = code + 32 := by
        decide +kernel
      have moved := checked _ isSmall
      rw [Char.ofNat_toNat] at moved
      obtain ⟨low, high, isMoved⟩ := moved isSame
      exact ⟨_, mem_lowerRuns_latin, ⟨low, high, Nat.mod_one _⟩, by rw [isMoved]; rfl⟩
    case isFalse notSmall =>
      rw [if_neg notSmall] at isSame
      split at member
      case isTrue => exact .inl member
      case isFalse notDotted =>
        rw [if_neg notDotted] at isSame
        split at member
        case h_1 none => simp [none] at isSame
        case h_2 run found =>
          split at member
          case isTrue onStep =>
            obtain rfl := List.mem_singleton.1 member
            obtain ⟨isRun, low, high⟩ := of_findRun found
            have moves : run.Moves symbol.toNat := ⟨low, high, onStep⟩
            exact .inr ⟨run, isRun, moves, toNat_of_moves isRun moves⟩
          case isFalse offStep => simp [found, offStep] at isSame

theorem lowerSymbol_ne_nil (symbol : Char) : lowerSymbol symbol ≠ [] := by
  rw [lowerSymbol]
  repeat' split
  all_goals exact List.cons_ne_nil _ _

/-! ## Blanks -/

/-- Lower case leaves blanks as they are, and they do not count as letters. -/
theorem lowering_of_isBlank {symbol : Char} (blank : isBlank symbol = true) :
    lowerSymbol symbol = [symbol] ∧ caseIgnorableRanges.holds symbol = false ∧
      casedRanges.holds symbol = false ∧ symbol ≠ 'Σ' := by
  have checked : ∀ code ∈ blankCodes,
      lowerSymbol (Char.ofNat code) = [Char.ofNat code] ∧
        caseIgnorableRanges.holds (Char.ofNat code) = false ∧
        casedRanges.holds (Char.ofNat code) = false ∧ Char.ofNat code ≠ 'Σ' := by
    decide +kernel
  rw [← Char.ofNat_toNat symbol]
  exact checked _ (isBlank_iff.1 blank)

/-- Lower case makes no blanks. -/
theorem notBlank_lowerSymbol {symbol : Char} (notBlank : isBlank symbol = false) :
    ∀ lowered ∈ lowerSymbol symbol, isBlank lowered = false := by
  intro lowered member
  rcases of_mem_lowerSymbol member with ⟨rfl, -⟩ | isDotted | ⟨run, isRun, moves, isMoved⟩
  · exact notBlank
  · simp only [List.mem_cons, List.not_mem_nil, or_false] at isDotted
    rcases isDotted with rfl | rfl <;> rfl
  · have checked : ∀ run ∈ lowerRuns.toList, ∀ blank ∈ blankCodes,
        ¬ (run.first + run.shift ≤ blank ∧ blank ≤ run.last + run.shift) := by
      decide +kernel
    rw [← Bool.not_eq_true, isBlank_iff]
    intro isBlank
    have apart := checked run (Array.mem_toList_iff.2 isRun) _ isBlank
    obtain ⟨low, high, -⟩ := moves
    omega

/-! ## Around a blank -/

/-- What stands behind a blank does not matter for the search for a letter. -/
theorem meetsCased_append_blank {symbol : Char} (blank : isBlank symbol = true)
    (text rest : List Char) : meetsCased (text ++ symbol :: rest) = meetsCased text := by
  obtain ⟨-, notIgnored, notCased, -⟩ := lowering_of_isBlank blank
  rw [meetsCased, meetsCased, List.dropWhile_append]
  cases left : text.dropWhile caseIgnorableRanges.holds with
  | nil =>
      simp only [List.isEmpty_nil, if_true]
      rw [List.dropWhile_cons_of_neg (by rw [notIgnored]; exact Bool.false_ne_true)]
      exact notCased
  | cons first others => rfl

/-- What stands in front of a blank does not matter behind it. -/
theorem lowerAfter_append_blank {symbol : Char} (blank : isBlank symbol = true)
    (before earlier text : List Char) :
    lowerAfter (before ++ symbol :: earlier) text = lowerAfter before text := by
  induction text generalizing before with
  | nil => rfl
  | cons first rest ih =>
      rw [lowerAfter, lowerAfter, meetsCased_append_blank blank]
      exact congrArg _ (ih (first :: before))

/-- A text around a blank is lowered on both sides by itself. -/
theorem lowerAfter_around_blank {symbol : Char} (blank : isBlank symbol = true)
    (before text rest : List Char) :
    lowerAfter before (text ++ symbol :: rest) =
      lowerAfter before text ++ symbol :: lower rest := by
  induction text generalizing before with
  | nil =>
      obtain ⟨same, -, -, notSigma⟩ := lowering_of_isBlank blank
      have first : lowerAfter before (symbol :: rest) =
          [symbol] ++ lowerAfter (symbol :: before) rest := by
        rw [lowerAfter, if_neg notSigma, same]
      exact first.trans (congrArg (symbol :: ·) (lowerAfter_append_blank blank [] before rest))
  | cons first others ih =>
      rw [List.cons_append, lowerAfter, lowerAfter, meetsCased_append_blank blank, ih,
        List.append_assoc]

/-- **A text around a blank is lowered on both sides by itself.** -/
theorem lower_append_blank {symbol : Char} (blank : isBlank symbol = true)
    (text rest : List Char) : lower (text ++ symbol :: rest) = lower text ++ symbol :: lower rest :=
  lowerAfter_around_blank blank [] text rest

theorem notBlank_lowerAfter {text : List Char} (noBlank : ∀ symbol ∈ text, isBlank symbol = false)
    (before : List Char) : ∀ symbol ∈ lowerAfter before text, isBlank symbol = false := by
  induction text generalizing before with
  | nil => exact nofun
  | cons first rest ih =>
      obtain ⟨notBlank, others⟩ := List.forall_mem_cons.1 noBlank
      rw [lowerAfter]
      refine List.forall_mem_append.2 ⟨?_, ih others _⟩
      split
      case isTrue => split <;> exact List.forall_mem_singleton.2 rfl
      case isFalse => exact notBlank_lowerSymbol notBlank

/-- A text without blanks has none in lower case. -/
theorem notBlank_lower {text : List Char} (noBlank : ∀ symbol ∈ text, isBlank symbol = false) :
    ∀ symbol ∈ lower text, isBlank symbol = false :=
  notBlank_lowerAfter noBlank []

theorem lower_eq_nil_iff {text : List Char} : lower text = [] ↔ text = [] := by
  cases text with
  | nil => exact iff_of_true rfl rfl
  | cons symbol rest =>
      refine iff_of_false (fun isEmpty => ?_) (List.cons_ne_nil _ _)
      have first := (List.append_eq_nil_iff.1 isEmpty).1
      split at first
      case isTrue => split at first <;> cases first
      case isFalse => exact lowerSymbol_ne_nil symbol first

/-! ## Words -/

/-- A text without a cut is one piece. -/
theorem splitWhere_of_noCut {isCut : Char → Bool} {text : List Char}
    (noCut : ∀ symbol ∈ text, isCut symbol = false) : splitWhere isCut text = [text] := by
  induction text with
  | nil => rfl
  | cons symbol rest ih =>
      obtain ⟨first, others⟩ := List.forall_mem_cons.1 noCut
      rw [splitWhere, if_neg (by rw [first]; exact Bool.false_ne_true), ih others]

/-- A text up to its first cut is its first piece. -/
theorem splitWhere_append_cut {isCut : Char → Bool} {text : List Char}
    (noCut : ∀ symbol ∈ text, isCut symbol = false) {symbol : Char} (cut : isCut symbol = true)
    (rest : List Char) :
    splitWhere isCut (text ++ symbol :: rest) = text :: splitWhere isCut rest := by
  induction text with
  | nil => rw [List.nil_append, splitWhere, if_pos cut]
  | cons first others ih =>
      obtain ⟨notCut, noCut⟩ := List.forall_mem_cons.1 noCut
      rw [List.cons_append, splitWhere, if_neg (by rw [notCut]; exact Bool.false_ne_true), ih noCut]

/-- A text has no cut, or begins with a text that has none and a cut. -/
theorem exists_cut (isCut : Char → Bool) (text : List Char) :
    (∀ symbol ∈ text, isCut symbol = false) ∨
      ∃ front symbol rest, text = front ++ symbol :: rest ∧ isCut symbol = true ∧
        ∀ symbol ∈ front, isCut symbol = false := by
  induction text with
  | nil => exact .inl nofun
  | cons first rest ih =>
      by_cases cut : isCut first = true
      · exact .inr ⟨[], first, rest, rfl, cut, nofun⟩
      · rw [Bool.not_eq_true] at cut
        rcases ih with noCut | ⟨front, symbol, behind, rfl, isCut, noCut⟩
        · exact .inl (List.forall_mem_cons.2 ⟨cut, noCut⟩)
        · exact .inr ⟨first :: front, symbol, behind, rfl, isCut,
            List.forall_mem_cons.2 ⟨cut, noCut⟩⟩

/-- A piece holds no cut. -/
theorem noCut_of_mem_splitWhere {isCut : Char → Bool} {text piece : List Char}
    (member : piece ∈ splitWhere isCut text) : ∀ symbol ∈ piece, isCut symbol = false := by
  induction text generalizing piece with
  | nil =>
      obtain rfl := List.mem_singleton.1 member
      exact nofun
  | cons first rest ih =>
      rw [splitWhere] at member
      split at member
      case isTrue =>
        rcases List.mem_cons.1 member with rfl | member
        · exact nofun
        · exact ih member
      case isFalse notCut =>
        rw [Bool.not_eq_true] at notCut
        split at member
        case h_1 =>
          obtain rfl := List.mem_singleton.1 member
          exact List.forall_mem_singleton.2 notCut
        case h_2 next others pieces =>
          rw [pieces] at ih
          rcases List.mem_cons.1 member with rfl | member
          · exact List.forall_mem_cons.2 ⟨notCut, ih (List.mem_cons_self ..)⟩
          · exact ih (List.mem_cons_of_mem _ member)

/-- Lowering a text lowers its pieces between blanks. -/
theorem splitWhere_lower (text : List Char) :
    splitWhere isBlank (lower text) = (splitWhere isBlank text).map lower := by
  induction length : text.length using Nat.strongRecOn generalizing text with
  | ind size ih =>
    rcases exists_cut isBlank text with noBlank | ⟨front, symbol, rest, rfl, blank, noBlank⟩
    · rw [splitWhere_of_noCut noBlank, splitWhere_of_noCut (notBlank_lower noBlank)]
      rfl
    · have shorter : rest.length < size := by
        rw [← length, List.length_append, List.length_cons]
        omega
      rw [lower_append_blank blank, splitWhere_append_cut noBlank blank,
        splitWhere_append_cut (notBlank_lower noBlank) blank, ih _ shorter rest rfl,
        List.map_cons]

/-- **The words of a text in lower case are its words, each in lower case.** -/
theorem words_lower (text : List Char) : words (lower text) = (words text).map lower := by
  rw [words, words, splitWhere_lower, List.filter_map]
  congr 1
  apply List.filter_congr
  intro piece _
  rw [Function.comp_apply, Bool.eq_iff_iff, Bool.not_eq_true', Bool.not_eq_true',
    List.isEmpty_eq_false_iff, List.isEmpty_eq_false_iff, Ne, lower_eq_nil_iff]

/-- A word is not empty and holds no blank. -/
theorem of_mem_words {text word : List Char} (member : word ∈ words text) :
    word ≠ [] ∧ ∀ symbol ∈ word, isBlank symbol = false := by
  obtain ⟨isPiece, notEmpty⟩ := List.mem_filter.1 member
  exact ⟨by simpa using notEmpty, noCut_of_mem_splitWhere isPiece⟩

end Inquiry.Text

namespace Inquiry.Detection

open Inquiry.Text

/-- **Words are lowered before or after they are joined.** -/
theorem lower_joinWords (given : List (List Char)) :
    lower (joinWords given) = joinWords (given.map lower) := by
  induction given with
  | nil => rfl
  | cons word rest ih =>
      cases rest with
      | nil => rfl
      | cons next others =>
          rw [joinWords, lower_append_blank (by decide), ih]
          · rfl
          · exact nofun

end Inquiry.Detection
