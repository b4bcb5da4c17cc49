import Inquiry.Proofs.Extraction
import Inquiry.Proofs.Mentions
import Mathlib.Data.List.Infix

/-!
# The object in a fence

In a code fence the reader of an answer does not count braces and knows no
strings.  It takes the object to end at the first closing brace behind which the
fence is closed, blanks between.  The brace at the end of the object is one of
these, so an object is always found, and it goes no further than the object in
the fence.  But a string may hold a closing brace with three backticks behind it
(`EndsInside`), and then the object is cut off in the middle of that string.

So an object in a fence is found whole exactly when nothing in it looks like its
end (`object?_fenced_iff`).  In prose it is found whole either way, since there
strings are read as strings.
-/

set_option autoImplicit false

namespace Inquiry.Extraction

open JsonText

/-! ## Where a fence is closed -/

/-- A fence is closed where three backticks stand behind blanks. -/
theorem closesFence_iff {text : List Char} :
    closesFence text = true ↔
      ∃ gap, (∀ symbol ∈ gap, Text.isBlank symbol = true) ∧ gap ++ fence <+: text := by
  rw [closesFence, List.isPrefixOf_iff_prefix]
  constructor
  · rintro ⟨rest, split⟩
    refine ⟨text.takeWhile Text.isBlank, fun symbol member => List.mem_takeWhile_imp member,
      rest, ?_⟩
    rw [List.append_assoc, split]
    exact List.takeWhile_append_dropWhile
  · rintro ⟨gap, allBlank, rest, rfl⟩
    rw [Text.trimStart, Text.trimStartWhere, List.append_assoc,
      List.dropWhile_append_of_pos allBlank]
    exact List.prefix_append fence rest

/-- Whether a fence is closed in front of a closing brace does not depend on what follows it. -/
theorem closesFence_append_brace (text rest : List Char) :
    closesFence (text ++ closeBrace :: rest) = closesFence text := by
  rw [Bool.eq_iff_iff, closesFence_iff, closesFence_iff]
  refine exists_congr fun gap => and_congr_right fun allBlank => ⟨fun begins => ?_, fun begins =>
    begins.trans (List.prefix_append ..)⟩
  refine Code.isPrefix_of_isPrefix_append_cons (fun member => ?_) begins
  rcases List.mem_append.1 member with member | member
  · exact absurd (allBlank closeBrace member) (by decide)
  · exact absurd member (by decide)

/-- A text holds a closing brace behind which, after blanks, three backticks stand. -/
def EndsInside (text : List Char) : Prop :=
  ∃ gap, (∀ symbol ∈ gap, Text.isBlank symbol = true) ∧ closeBrace :: (gap ++ fence) <:+: text

theorem endsInside_cons_iff {symbol : Char} {text : List Char} :
    EndsInside (symbol :: text) ↔
      symbol = closeBrace ∧ closesFence text = true ∨ EndsInside text := by
  constructor
  · rintro ⟨gap, allBlank, inside⟩
    rcases List.infix_cons_iff.1 inside with begins | later
    · obtain ⟨isBrace, begins⟩ := List.cons_prefix_cons.1 begins
      exact .inl ⟨isBrace.symm, closesFence_iff.2 ⟨gap, allBlank, begins⟩⟩
    · exact .inr ⟨gap, allBlank, later⟩
  · rintro (⟨rfl, closes⟩ | ⟨gap, allBlank, later⟩)
    · obtain ⟨gap, allBlank, begins⟩ := closesFence_iff.1 closes
      exact ⟨gap, allBlank, (List.cons_prefix_cons.2 ⟨rfl, begins⟩).isInfix⟩
    · exact ⟨gap, allBlank, List.infix_cons later⟩

theorem not_endsInside_nil : ¬ EndsInside [] := by
  rintro ⟨gap, -, inside⟩
  exact List.cons_ne_nil _ _ (List.infix_nil.1 inside)

instance decidableEndsInside : (text : List Char) → Decidable (EndsInside text)
  | [] => isFalse not_endsInside_nil
  | _ :: text =>
      have := decidableEndsInside text
      decidable_of_iff _ endsInside_cons_iff.symm

theorem EndsInside.append_left {text : List Char} (ends : EndsInside text)
    (front : List Char) : EndsInside (front ++ text) := by
  obtain ⟨gap, allBlank, inside⟩ := ends
  exact ⟨gap, allBlank, inside.trans ⟨front, [], List.append_nil _⟩⟩

/-! ## What the reader takes for the object -/

/-- A text up to the first closing brace behind which a fence is closed; or all of it, if there is
no such brace in front of its last character. -/
structure IsCutTo (found text : List Char) : Prop where
  /-- A closing brace stands at the end of what is found. -/
  closed : ∃ body, found = body ++ [closeBrace]
  /-- Behind it the text ends, or a fence is closed. -/
  followed : ∃ late, text = found ++ late ∧ (late = [] ∨ closesFence late = true)
  /-- There is no such brace before. -/
  first : ¬ EndsInside found

/-- A text is cut off exactly when a fence is closed behind one of its closing braces. -/
theorem IsCutTo.eq_iff {found text : List Char} (cut : IsCutTo found text) :
    found = text ↔ ¬ EndsInside text := by
  obtain ⟨⟨body, rfl⟩, ⟨late, rfl, isEnd⟩, notBefore⟩ := cut
  refine ⟨fun whole => whole ▸ notBefore, ?_⟩
  intro notInside
  rcases isEnd with rfl | closes
  · rw [List.append_nil]
  · have endsHere : EndsInside (closeBrace :: late) := endsInside_cons_iff.2 (.inl ⟨rfl, closes⟩)
    rw [List.append_assoc] at notInside
    exact absurd (endsHere.append_left body) notInside

/-- A character in front of a text that is no end of it, is no end of what it is cut to either. -/
theorem IsCutTo.cons {symbol : Char} {found text : List Char} (cut : IsCutTo found text)
    (notHere : ¬ (symbol = closeBrace ∧ closesFence text = true)) :
    IsCutTo (symbol :: found) (symbol :: text) := by
  obtain ⟨⟨body, rfl⟩, ⟨late, rfl, isEnd⟩, notBefore⟩ := cut
  have sameClosing : closesFence (body ++ [closeBrace]) =
      closesFence (body ++ [closeBrace] ++ late) := by
    rw [List.append_assoc, List.singleton_append, closesFence_append_brace,
      closesFence_append_brace]
  refine ⟨⟨symbol :: body, rfl⟩, ⟨late, rfl, isEnd⟩, ?_⟩
  intro ends
  rcases endsInside_cons_iff.1 ends with endsHere | endsLater
  · exact notHere (sameClosing ▸ endsHere)
  · exact notBefore endsLater

/-- Where the fence is closed behind an object, the object is cut to what is found. -/
theorem exists_upToFence? {rest : List Char} (closes : closesFence rest = true)
    (text : List Char) :
    ∃ found, upToFence? (text ++ closeBrace :: rest) = some found ∧
      IsCutTo found (text ++ [closeBrace]) := by
  induction text with
  | nil =>
      exact ⟨[closeBrace], by simp [upToFence?, closes], ⟨[], rfl⟩, ⟨[], rfl, .inl rfl⟩,
        by decide⟩
  | cons symbol text ih =>
      have sameClosing : closesFence (text ++ closeBrace :: rest) =
          closesFence (text ++ [closeBrace]) := by
        rw [closesFence_append_brace, closesFence_append_brace]
      rw [List.cons_append, List.cons_append, upToFence?]
      by_cases endsHere : symbol = closeBrace ∧ closesFence (text ++ closeBrace :: rest) = true
      · obtain ⟨rfl, closesHere⟩ := endsHere
        exact ⟨[closeBrace], if_pos (by simpa using closesHere), ⟨[], rfl⟩,
          ⟨text ++ [closeBrace], rfl, .inr (sameClosing ▸ closesHere)⟩, by decide⟩
      · obtain ⟨found, isFound, cut⟩ := ih
        refine ⟨symbol :: found, ?_, cut.cons (sameClosing ▸ endsHere)⟩
        rw [if_neg (by simpa using endsHere), isFound, Option.map_some]

/-! ## Objects in fences -/

/-- The opening of a fence, with the word that names the language. -/
def opening : List Char := fence ++ ['j', 's', 'o', 'n', '\n']

/-- An object in a fence, alone on its lines. -/
def inFence (text : List Char) : List Char := opening ++ (text ++ '\n' :: fence)

theorem braces_of_spells {text : List Char} (spells : Spells .object text) :
    ∃ body, text = openBrace :: (body ++ [closeBrace]) := by
  cases spells with
  | emptyObject => exact ⟨_, rfl⟩
  | object => exact ⟨_, rfl⟩

theorem fencedHere?_opening (rest : List Char) :
    fencedHere? (opening ++ openBrace :: rest) = (upToFence? rest).map (openBrace :: ·) := rfl

/-- An object behind the opening of a fence is cut to what is found. -/
theorem exists_fencedHere? {text : List Char} (spells : Spells .object text)
    (after : List Char) :
    ∃ found, fencedHere? (inFence text ++ after) = some found ∧ IsCutTo found text := by
  obtain ⟨body, rfl⟩ := braces_of_spells spells
  have closes : closesFence ('\n' :: (fence ++ after)) = true :=
    closesFence_iff.2 ⟨['\n'], List.forall_mem_singleton.2 rfl, ⟨after, rfl⟩⟩
  obtain ⟨found, isFound, cut⟩ := exists_upToFence? closes body
  have split : inFence (openBrace :: (body ++ [closeBrace])) ++ after =
      opening ++ openBrace :: (body ++ closeBrace :: '\n' :: (fence ++ after)) := by
    simp [inFence]
  refine ⟨openBrace :: found, ?_, cut.cons fun isBrace => absurd isBrace.1 (by decide)⟩
  rw [split, fencedHere?_opening, isFound, Option.map_some]

theorem fenced?_of_fencedHere? {text found : List Char} (here : fencedHere? text = some found) :
    fenced? text = some found := by
  cases text with
  | nil => cases here
  | cons symbol rest => rw [fenced?, here]

/-- One or two backticks in front of the opening of a fence open none. -/
theorem fencedHere?_ticks {ticks : List Char} (notEmpty : ticks ≠ []) (short : ticks <+: fence)
    (notFence : ¬ fence <+: ticks) (rest : List Char) :
    fencedHere? (ticks ++ (opening ++ rest)) = none := by
  have few : ticks ∈ [[], ['`'], ['`', '`'], fence] := (List.mem_inits ticks fence).2 short
  simp only [List.mem_cons, List.not_mem_nil, or_false] at few
  rcases few with rfl | rfl | rfl | rfl
  · exact absurd rfl notEmpty
  · rfl
  · rfl
  · exact absurd (List.prefix_refl _) notFence

/-- The object of a fence is found behind any text without three backticks. -/
theorem fenced?_append_opening {before : List Char} (noFence : ¬ fence <:+: before)
    {rest found : List Char} (here : fencedHere? (opening ++ rest) = some found) :
    fenced? (before ++ (opening ++ rest)) = some found := by
  induction before with
  | nil => exact fenced?_of_fencedHere? here
  | cons symbol before ih =>
      rw [List.infix_cons_iff, not_or] at noFence
      have notHere : fencedHere? (symbol :: before ++ (opening ++ rest)) = none := by
        cases opens : fence.isPrefixOf? (symbol :: before ++ (opening ++ rest)) with
        | none => rw [fencedHere?, opens]
        | some later =>
            have begins : fence <+: symbol :: before ++ (opening ++ rest) :=
              ⟨later, (Code.isPrefixOf?_eq_some_iff.1 opens).symm⟩
            rcases List.prefix_or_prefix_of_prefix begins (List.prefix_append ..) with
              within | past
            · exact absurd within noFence.1
            · exact fencedHere?_ticks (List.cons_ne_nil symbol before) past noFence.1 rest
      rw [List.cons_append, fenced?, ← List.cons_append, notHere]
      exact ih noFence.2

/-- **An object in a fence is found whole exactly when nothing in it looks like its end.**

As long as no three backticks stand in front of the fence, something is found whatever the object
holds and whatever stands behind the fence: the object up to its first closing brace that three
backticks follow after blanks.  If it holds none in front of its last brace, that is all of it. -/
theorem object?_fenced_iff {before text : List Char} (spells : Spells .object text)
    (noFence : ¬ fence <:+: before) (after : List Char) :
    (∃ found, object? (before ++ inFence text ++ after) = some found ∧ IsCutTo found text) ∧
      (object? (before ++ inFence text ++ after) = some text ↔ ¬ EndsInside text) := by
  obtain ⟨found, here, cut⟩ := exists_fencedHere? spells after
  have isFound : object? (before ++ inFence text ++ after) = some found := by
    rw [inFence, List.append_assoc] at here
    rw [object?, inFence, List.append_assoc, List.append_assoc, fenced?_append_opening noFence here]
  exact ⟨⟨found, isFound, cut⟩, by rw [isFound, Option.some_inj, cut.eq_iff]⟩

/-- An object whose strings hold a closing brace and backticks, but three of them nowhere behind
the brace. -/
theorem object?_fenced_iff_nested :
    let before := "Here you go: ``".toList
    let text :=
      "\x7b\"code\": \"``` '\x7d``' \\\" FROM `tabItem`\", \"more\": \x7b\"a\": 1\x7d\x7d".toList
    let after := "\nThanks ``` \x7b".toList
    Spells .object text ∧ ¬ fence <:+: before ∧ ¬ EndsInside text ∧
      object? (before ++ inFence text ++ after) = some text := by
  intro before text after
  have spells : Spells .object text :=
    Written.spells_object_of_read (by decide +kernel) (by decide +kernel) (by decide +kernel)
  have noFence : ¬ fence <:+: before := by decide +kernel
  have notInside : ¬ EndsInside text := by decide +kernel
  exact ⟨spells, noFence, notInside, (object?_fenced_iff spells noFence after).2.2 notInside⟩

/-- An object is cut off in a string that holds a closing brace with three backticks behind it;
without the fence around it the same object is found whole. -/
theorem object?_fenced_cut :
    let text := "\x7b\"code\": \"SELECT '\x7d ```' FROM tabItem\"\x7d".toList
    Spells .object text ∧
      object? (inFence text) = some "\x7b\"code\": \"SELECT '\x7d".toList ∧
        object? (inFence text) ≠ some text ∧ object? text = some text := by
  intro text
  have spells : Spells .object text :=
    Written.spells_object_of_read (by decide +kernel) (by decide +kernel) (by decide +kernel)
  have found : object? (inFence text) = some "\x7b\"code\": \"SELECT '\x7d".toList := by
    decide +kernel
  refine ⟨spells, found, ?_, by decide +kernel⟩
  rw [found]
  decide +kernel

end Inquiry.Extraction
