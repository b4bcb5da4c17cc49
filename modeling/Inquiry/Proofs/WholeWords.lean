import Inquiry.Proofs.Ranking

/-!
# Keywords that stand as whole words

A keyword may stand in a text at many places, at some of them as a whole word and
at others as a part of one.  A whole word should count wherever it stands.  The
places are looked for from left to right, though, and behind a place that was
found the search goes on only where that place ends.  So a whole word is missed
if it overlaps a place found earlier, and this is the only way in which it can be
missed (`found_or_overlapped`).

A place that overlaps an earlier one shows something about the keyword: it begins
again inside itself, and if the second place is a whole word, then behind a
character that is not part of a word (`BeginsAgain`).  No single word does.  The
keyword bora bora does, and in the question "xbora bora bora" it is missed.  For
every keyword that begins again there is such a text, so the condition is exact
(`forall_isWholeWordIn_iff`).
-/

set_option autoImplicit false

namespace Inquiry.Detection

open Inquiry.Text

variable {keyword text : List Char}

/-- A keyword stands somewhere in a text with no word character directly before or after it. -/
def IsWholeWordIn (keyword text : List Char) : Prop :=
  ∃ offset, Stands keyword text ⟨offset, true⟩

/-- A keyword begins again inside itself, behind a character that is not part of a word, and goes
on there up to its end as it began. -/
def BeginsAgain (keyword : List Char) : Prop :=
  ∃ front again, keyword = front ++ again ∧ front ≠ [] ∧ again ≠ [] ∧
    bounds front.getLast? = true ∧ again <+: keyword

/-- A keyword of word characters only does not begin again. -/
theorem not_beginsAgain_of_isWordPart (whole : ∀ symbol ∈ keyword, isWordPart symbol = true) :
    ¬ BeginsAgain keyword := by
  rintro ⟨front, again, rfl, notEmpty, -, bounded, -⟩
  have isPart := whole (front.getLast notEmpty)
    (List.mem_append_left _ (List.getLast_mem notEmpty))
  rw [List.getLast?_eq_some_getLast notEmpty] at bounded
  simp [bounds, isPart] at bounded

/-! ## Occurrences that are found -/

/-- The occurrence that counts is a whole word exactly where one of those that are found is. -/
theorem exists_bounded_occurrence?_iff :
    (∃ occurrence ∈ occurrence? keyword text, occurrence.bounded = true) ↔
      ∃ occurrence ∈ occurrencesFrom keyword none 0 0 text, occurrence.bounded = true := by
  rw [occurrence?]
  split
  case h_1 occurrence found =>
    have isBounded : occurrence.bounded = true := List.find?_some found
    exact iff_of_true ⟨occurrence, rfl, isBounded⟩
      ⟨occurrence, List.mem_of_find?_eq_some found, isBounded⟩
  case h_2 none =>
    constructor
    · rintro ⟨occurrence, isFirst, isBounded⟩
      exact ⟨occurrence, List.mem_of_head? isFirst, isBounded⟩
    · rintro ⟨occurrence, member, isBounded⟩
      exact absurd isBounded (List.find?_eq_none.1 none occurrence member)

/-- **A keyword that stands in a text is found there, or it overlaps an earlier place where it
stands.**

The induction is on the text between the place where the search is and the keyword. -/
theorem found_or_overlapped (notEmpty : keyword ≠ []) {front between after : List Char}
    {skip : Nat} (within : skip ≤ between.length) :
    ⟨byteSize (front ++ between), bounds (front ++ between).getLast? && bounds after.head?⟩ ∈
        occurrencesFrom keyword front.getLast? (byteSize front) skip
          (between ++ (keyword ++ after)) ∨
      ∃ earlier inside, between = earlier ++ inside ∧ inside ≠ [] ∧
        inside.length < keyword.length ∧ keyword <+: inside ++ (keyword ++ after) := by
  induction between generalizing front skip with
  | nil =>
      left
      obtain rfl : skip = 0 := Nat.le_zero.1 within
      obtain ⟨symbol, rest, rfl⟩ := List.exists_cons_of_ne_nil notEmpty
      have found : (symbol :: rest).isPrefixOf? (symbol :: (rest ++ after)) = some after :=
        Code.isPrefixOf?_eq_some_iff.2 rfl
      rw [List.nil_append, List.append_nil, List.cons_append, occurrencesFrom, found]
      exact List.mem_cons_self ..
  | cons symbol between ih =>
      have goesOn {skip : Nat} (within : skip ≤ between.length) :
          ⟨byteSize (front ++ symbol :: between),
              bounds (front ++ symbol :: between).getLast? && bounds after.head?⟩ ∈
            occurrencesFrom keyword (some symbol) (byteSize front + symbol.utf8Size) skip
              (between ++ (keyword ++ after)) ∨
          ∃ earlier inside, symbol :: between = earlier ++ inside ∧ inside ≠ [] ∧
            inside.length < keyword.length ∧ keyword <+: inside ++ (keyword ++ after) := by
        have shifted := @ih (front ++ [symbol]) skip within
        rw [List.getLast?_concat, byteSize_append, List.append_assoc] at shifted
        apply shifted.imp_right
        rintro ⟨earlier, inside, rfl, overlaps⟩
        exact ⟨symbol :: earlier, inside, rfl, overlaps⟩
      cases skip with
      | succ skip => exact goesOn (Nat.le_of_succ_le_succ within)
      | zero =>
          rw [List.cons_append, occurrencesFrom]
          split
          case h_1 rest found =>
            by_cases past : keyword.length - 1 ≤ between.length
            · exact (goesOn past).imp_left (List.mem_cons_of_mem _)
            · refine .inr ⟨[], symbol :: between, rfl, List.cons_ne_nil _ _, ?_, ?_⟩
              · rw [List.length_cons]
                omega
              · exact ⟨rest, (Code.isPrefixOf?_eq_some_iff.1 found).symm⟩
          case h_2 => exact goesOn (Nat.zero_le _)

/-- What stands between two places of a keyword that overlap is the front of the keyword, and the
rest of the keyword is how it begins. -/
theorem exists_again_of_overlap {inside after : List Char}
    (shorter : inside.length < keyword.length)
    (begins : keyword <+: inside ++ (keyword ++ after)) :
    ∃ again, keyword = inside ++ again ∧ again ≠ [] ∧ again <+: keyword := by
  obtain ⟨again, cut⟩ :=
    List.prefix_of_prefix_length_le (List.prefix_append inside _) begins (Nat.le_of_lt shorter)
  have ofLength := congrArg List.length cut
  rw [List.length_append] at ofLength
  refine ⟨again, cut.symm, ?_, ?_⟩
  · rintro rfl
    rw [List.length_nil] at ofLength
    omega
  · rw [← cut, List.prefix_append_right_inj, cut] at begins
    exact List.prefix_of_prefix_length_le begins (List.prefix_append keyword _) (by omega)

/-- A keyword that does not begin again is found as a whole word wherever it stands as one. -/
theorem exists_bounded_of_isWholeWordIn (notEmpty : keyword ≠ []) (once : ¬ BeginsAgain keyword)
    (stands : IsWholeWordIn keyword text) :
    ∃ occurrence ∈ occurrence? keyword text, occurrence.bounded = true := by
  obtain ⟨offset, before, after, rfl, -, isBounded⟩ := stands
  rw [exists_bounded_occurrence?_iff, List.append_assoc]
  rcases @found_or_overlapped keyword notEmpty [] before after 0 (Nat.zero_le _) with
    member | ⟨earlier, inside, rfl, someInside, shorter, begins⟩
  · exact ⟨_, member, isBounded.symm⟩
  · refine absurd ?_ once
    obtain ⟨again, cut, someAgain, beginsAgain⟩ := exists_again_of_overlap shorter begins
    refine ⟨inside, again, cut, someInside, someAgain, ?_, beginsAgain⟩
    have ofBefore := (Bool.and_eq_true_iff.1 isBounded.symm).1
    rwa [List.getLast?_append_of_ne_nil _ someInside] at ofBefore

/-! ## Occurrences that are missed -/

/-- Nothing is found where less is left than the keyword. -/
theorem occurrencesFrom_eq_nil {before : Option Char} {offset skip : Nat}
    (short : text.length < skip + keyword.length) :
    occurrencesFrom keyword before offset skip text = [] := by
  induction text generalizing before offset skip with
  | nil => rw [occurrencesFrom]
  | cons symbol rest ih =>
      rw [List.length_cons] at short
      cases skip with
      | succ skip => exact ih (by omega)
      | zero =>
          have notHere : keyword.isPrefixOf? (symbol :: rest) = none := by
            refine Code.isPrefixOf?_eq_none_iff.2 fun begins => ?_
            have atMost := begins.length_le
            rw [List.length_cons] at atMost
            omega
          rw [occurrencesFrom, notHere]
          exact ih (by omega)

/-- There is a letter that a text does not begin with. -/
theorem exists_letter (text : List Char) :
    ∃ letter, isWordPart letter = true ∧ text.head? ≠ some letter := by
  by_cases isA : text.head? = some 'a'
  · exact ⟨'b', by decide, by rw [isA]; decide⟩
  · exact ⟨'a', by decide, isA⟩

/-- Behind a letter a keyword is found once, as a part of a word, if what follows it is shorter. -/
theorem occurrencesFrom_behind_letter {letter : Char} {rest : List Char}
    (isPart : isWordPart letter = true) (notFirst : keyword.head? ≠ some letter)
    (short : rest.length < keyword.length) :
    occurrencesFrom keyword none 0 0 (letter :: (keyword ++ rest)) =
      [⟨letter.utf8Size, false⟩] := by
  obtain ⟨first, later, rfl⟩ :=
    List.exists_cons_of_ne_nil (List.ne_nil_of_length_pos (Nat.zero_lt_of_lt short))
  have notAtLetter : (first :: later).isPrefixOf? (letter :: (first :: later ++ rest)) = none := by
    refine Code.isPrefixOf?_eq_none_iff.2 fun begins => notFirst ?_
    rw [List.head?_cons, (List.cons_prefix_cons.1 begins).1]
  have behindLetter : (first :: later).isPrefixOf? (first :: (later ++ rest)) = some rest :=
    Code.isPrefixOf?_eq_some_iff.2 rfl
  have nothingElse (before : Option Char) (offset : Nat) :
      occurrencesFrom (first :: later) before offset later.length (later ++ rest) = [] := by
    apply occurrencesFrom_eq_nil
    rw [List.length_append, Nat.add_comm]
    omega
  rw [occurrencesFrom, notAtLetter]
  simp only [List.cons_append]
  rw [occurrencesFrom, behindLetter]
  simp [nothingElse, bounds, isPart]

/-- A keyword that begins again is missed in some text where it stands as a whole word: behind a
letter, its front and then the keyword. -/
theorem exists_missed (begins : BeginsAgain keyword) :
    ∃ text, IsWholeWordIn keyword text ∧
      ∀ occurrence ∈ occurrence? keyword text, occurrence.bounded = false := by
  obtain ⟨front, again, cut, someFront, someAgain, bounded, ⟨rest, whole⟩⟩ := begins
  obtain ⟨letter, isPart, notFirst⟩ := exists_letter keyword
  have overlaps : front ++ keyword = keyword ++ rest := by
    rw [← whole, ← List.append_assoc, ← cut, whole]
  have shorter : rest.length < keyword.length := by
    have someLeft := List.length_pos_of_ne_nil someAgain
    rw [← whole, List.length_append]
    omega
  refine ⟨letter :: (front ++ keyword), ⟨_, letter :: front, [], ?_, rfl, ?_⟩, ?_⟩
  · rw [List.append_nil, List.cons_append]
  · rw [List.getLast?_cons_of_ne_nil someFront, bounded]
    rfl
  · intro occurrence counts
    have member := occurrencesFrom_behind_letter isPart notFirst shorter
    rw [← overlaps] at member
    rw [occurrence?, member] at counts
    obtain rfl := Option.some.inj counts
    rfl

/-- **A keyword is found as a whole word in every text where it stands as one exactly if it does not
begin again.** -/
theorem forall_isWholeWordIn_iff (notEmpty : keyword ≠ []) :
    (∀ text, IsWholeWordIn keyword text →
        ∃ occurrence ∈ occurrence? keyword text, occurrence.bounded = true) ↔
      ¬ BeginsAgain keyword := by
  constructor
  · intro always begins
    obtain ⟨text, stands, missed⟩ := exists_missed begins
    obtain ⟨occurrence, counts, isBounded⟩ := always text stands
    rw [missed occurrence counts] at isBounded
    cases isBounded
  · intro once text
    exact exists_bounded_of_isWholeWordIn notEmpty once

/-! ## Exact matches -/

/-- Scoring marks an entity as an exact match in a text, with the confidence of one. -/
def IsExactIn (settings : DetectionSettings) (entity : Entity) (text : List Char) : Prop :=
  ∃ candidate, score? settings text entity = some candidate ∧
    candidate.detected.exactMatch = true ∧
    candidate.detected.confidence = settings.exactConfidence

/-- An entity is an exact match exactly where some keyword of it counts as a whole word. -/
theorem isExactIn_iff {settings : DetectionSettings} (sound : settings.IsSound) {entity : Entity} :
    IsExactIn settings entity text ↔ ∃ keyword ∈ keywords entity,
      ∃ occurrence ∈ occurrence? keyword text, occurrence.bounded = true := by
  constructor
  · rintro ⟨candidate, scored, isExact, -⟩
    obtain ⟨keyword, isKeyword, -, counts⟩ := (wins_of_score? sound scored).keyword
    exact ⟨keyword, isKeyword, _, counts, isExact⟩
  · rintro ⟨keyword, isKeyword, occurrence, counts, isBounded⟩
    have stands := (isSome_occurrence?_iff (ne_nil_of_mem_keywords isKeyword)).1
      (Option.isSome_of_eq_some counts)
    obtain ⟨candidate, scored⟩ := Option.isSome_iff_exists.1
      (isSome_score?_iff.2 (isNamedIn_iff.2 ⟨keyword, isKeyword, stands⟩))
    have wins := wins_of_score? sound scored
    have isExact := (wins.best keyword isKeyword occurrence counts).1 isBounded
    refine ⟨candidate, scored, isExact, ?_⟩
    rw [wins.confidence, if_pos isExact]

/-- **When an entity is an exact match.**

Under accepted settings an exact match always stands in the question as a whole word.  An entity
that stands there as a whole word is an exact match if the keyword that does so does not begin
again; so for an entity without such keywords the two are the same, and for each keyword that
begins again there is a text where it stands as a whole word and does not count as one. -/
theorem isExactIn_iff_isWholeWordIn (settings : Settings) (valid : settings.check = .ok ())
    (entity : Entity) :
    (∀ question : String,
      (IsExactIn settings.detection entity (lower question.toList) →
        ∃ keyword ∈ keywords entity, IsWholeWordIn keyword (lower question.toList)) ∧
      ((∃ keyword ∈ keywords entity, ¬ BeginsAgain keyword ∧
          IsWholeWordIn keyword (lower question.toList)) →
        IsExactIn settings.detection entity (lower question.toList))) ∧
    ((∀ keyword ∈ keywords entity, ¬ BeginsAgain keyword) → ∀ question : String,
      (IsExactIn settings.detection entity (lower question.toList) ↔
        ∃ keyword ∈ keywords entity, IsWholeWordIn keyword (lower question.toList))) ∧
    ∀ keyword ∈ keywords entity,
      ((∀ text, IsWholeWordIn keyword text →
          ∃ occurrence ∈ occurrence? keyword text, occurrence.bounded = true) ↔
        ¬ BeginsAgain keyword) := by
  have sound := Settings.isSound_of_check valid
  have stands {text : List Char} (isExact : IsExactIn settings.detection entity text) :
      ∃ keyword ∈ keywords entity, IsWholeWordIn keyword text := by
    obtain ⟨keyword, isKeyword, ⟨offset, bounded⟩, counts, rfl⟩ := (isExactIn_iff sound).1 isExact
    exact ⟨keyword, isKeyword, offset, stands_of_occurrence? counts⟩
  have isExact {text : List Char} (stands : ∃ keyword ∈ keywords entity,
      ¬ BeginsAgain keyword ∧ IsWholeWordIn keyword text) :
      IsExactIn settings.detection entity text := by
    obtain ⟨keyword, isKeyword, once, isWhole⟩ := stands
    exact (isExactIn_iff sound).2 ⟨keyword, isKeyword,
      exists_bounded_of_isWholeWordIn (ne_nil_of_mem_keywords isKeyword) once isWhole⟩
  refine ⟨fun question => ⟨stands, isExact⟩, fun once question => ⟨stands, ?_⟩, ?_⟩
  · rintro ⟨keyword, isKeyword, isWhole⟩
    exact isExact ⟨keyword, isKeyword, once keyword isKeyword, isWhole⟩
  · intro keyword isKeyword
    exact forall_isWholeWordIn_iff (ne_nil_of_mem_keywords isKeyword)

/-- The question about items has a keyword of items as a whole word, so items are an exact match. -/
theorem isExactIn_items :
    ({} : Settings).check = .ok () ∧
      IsExactIn {} { name := "Item", fields := [] } (lower "list items".toList) := by
  have isKeyword : "items".toList ∈ keywords { name := "Item", fields := [] } := by decide +kernel
  have once : ¬ BeginsAgain "items".toList :=
    not_beginsAgain_of_isWordPart (List.all_eq_true.1 (by decide +kernel))
  have stands : IsWholeWordIn "items".toList (lower "list items".toList) :=
    ⟨5, "list ".toList, [], by decide +kernel, by decide +kernel, by decide +kernel⟩
  exact ⟨check_default, ((isExactIn_iff_isWholeWordIn {} check_default _).1 "list items").2
    ⟨_, isKeyword, once, stands⟩⟩

/-- An entity whose name begins again. -/
def boraBora : Entity := { name := "Bora Bora", fields := [] }

/-- In a question that ends in its name it is no exact match, because the place overlaps an earlier
one where the name is a part of a word. -/
theorem not_isExactIn_boraBora :
    ({} : Settings).check = .ok () ∧
      (∃ keyword ∈ keywords boraBora, IsWholeWordIn keyword (lower "xbora bora bora".toList)) ∧
      ¬ IsExactIn {} boraBora (lower "xbora bora bora".toList) := by
  refine ⟨check_default, ⟨"bora bora".toList, by decide +kernel, 6, "xbora ".toList, [],
    by decide +kernel, by decide +kernel, by decide +kernel⟩, ?_⟩
  rintro ⟨candidate, scored, isExact, -⟩
  have notExact : (score? {} (lower "xbora bora bora".toList) boraBora).all
      (fun candidate => !candidate.detected.exactMatch) = true := by
    decide +kernel
  rw [scored] at notExact
  simp [isExact] at notExact

end Inquiry.Detection
