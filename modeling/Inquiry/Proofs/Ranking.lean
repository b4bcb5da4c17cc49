import Inquiry.Proofs.Downgrading
import Inquiry.Proofs.Keywords
import Mathlib.Data.Prod.Lex
import Mathlib.Data.String.Basic

/-!
# What detection selects

An entity that is named in a question becomes one candidate, made by the keyword
that counts most: one that stands there as a whole word before one that does not,
and then the one that stands first (`Wins`).  Candidates are ranked by numbers
and a name.  Names differ in a catalog, so no two candidates rank alike, and
sorting puts them into one strict order (`pairwise_ranked`).

Of these detection hands on the first few, after leaving out the ones that are
not sure if there are others.  So what is handed on is sound, and it is complete
in the sense that every entity that is left out has a reason
(`detect_isSelection`).  This is about names and aliases that are not blank: a
blank alias is spelled by nothing at all, and nothing stands in every text, but it
makes no candidate.
-/

set_option autoImplicit false

namespace Inquiry

open Inquiry.Text

/-! ## Accepted settings -/

/-- The total order of doubles follows their values. -/
theorem Double.totalKey_lt_of_less {first second : Double} (less : first.less second = true) :
    first.totalKey < second.totalKey := by
  have below : first.valueKey < second.valueKey := by
    simp only [Double.less, Bool.and_eq_true, decide_eq_true_eq] at less
    exact less.2
  simp only [Double.valueKey] at below
  simp only [Double.totalKey]
  cases isNegative : first.isNegative <;> cases isNegative' : second.isNegative <;>
    simp only [isNegative, isNegative', if_true, if_false, Bool.false_eq_true] at below ⊢ <;>
    omega

/-- What is asked of the settings of detection. -/
structure DetectionSettings.IsSound (settings : DetectionSettings) : Prop where
  /-- A part of a word counts less than the whole word. -/
  less : settings.substringConfidence.less settings.exactConfidence = true
  /-- The least confidence is a number. -/
  isNumber : settings.minConfidence.isNaN = false
  /-- At least one entity may be handed on. -/
  some : 1 ≤ settings.maxEntities

namespace Settings

theorem checkUnit_eq_ok_iff {name : String} {value : Double} :
    checkUnit name value = .ok () ↔ value.inUnitInterval = true := by
  rw [checkUnit]
  split <;> simp [*]

theorem checkCount_eq_ok_iff {name : String} {value : Nat} :
    checkCount name value = .ok () ↔ 1 ≤ value ∧ value ≤ 3 := by
  simp only [checkCount, Bool.and_eq_true, decide_eq_true_eq]
  split <;> simp [*]

/-- Accepted settings are sound. -/
theorem isSound_of_check {settings : Settings} (valid : settings.check = .ok ()) :
    settings.detection.IsSound := by
  rw [check] at valid
  simp only [then_eq_ok_iff, checkUnit_eq_ok_iff] at valid
  obtain ⟨exact, substring, least, rest⟩ := valid
  simp only [Double.inUnitInterval, Double.atMost, Bool.and_eq_true, Bool.not_eq_true']
    at exact substring least
  split at rest
  case isTrue =>
    obtain ⟨impossible, -⟩ := then_eq_ok_iff.1 rest
    exact absurd impossible throw_ne_ok
  case isFalse isAbove =>
    obtain ⟨count, -⟩ := then_eq_ok_iff.1 rest
    refine ⟨?_, least.1.1.2, (checkCount_eq_ok_iff.1 count).1⟩
    simp only [Double.atMost, exact.1.1.2, substring.1.1.2, Bool.not_false, Bool.true_and,
      decide_eq_true_eq, not_le] at isAbove
    simp [Double.less, exact.1.1.2, substring.1.1.2, isAbove]

end Settings

namespace Detection

/-! ## The best keyword -/

/-- The candidate that wins among those that the keywords of an entity make. -/
structure Wins (settings : DetectionSettings) (text : List Char) (entity : Entity)
    (candidate : Candidate) : Prop where
  entityName : candidate.detected.entityName = entity.name
  /-- The keyword is one of the entity, and the occurrence is the one that counts. -/
  keyword : ∃ keyword ∈ keywords entity, candidate.detected.matchedKeyword = String.ofList keyword ∧
    occurrence? keyword text = some ⟨candidate.position, candidate.detected.exactMatch⟩
  /-- The keyword stands in the text where the candidate says. -/
  stands : Stands candidate.detected.matchedKeyword.toList text
    ⟨candidate.position, candidate.detected.exactMatch⟩
  confidence : candidate.detected.confidence =
    if candidate.detected.exactMatch then settings.exactConfidence
    else settings.substringConfidence
  /-- No keyword of the entity counts more: a whole word before a part of one, then the first. -/
  best : ∀ keyword ∈ keywords entity, ∀ occurrence ∈ occurrence? keyword text,
    (occurrence.bounded = true → candidate.detected.exactMatch = true) ∧
      (occurrence.bounded = candidate.detected.exactMatch →
        candidate.position ≤ occurrence.offset)

/-- A candidate counts more than another one: it is a whole word and the other is not, or it stands
in front of the other. -/
def Beats (first second : Candidate) : Prop :=
  (first.detected.exactMatch = true ∧ second.detected.exactMatch = false) ∨
    (first.detected.exactMatch = second.detected.exactMatch ∧ first.position < second.position)

theorem not_beats_self (candidate : Candidate) : ¬ Beats candidate candidate := by
  simp [Beats]

theorem Beats.not_beats {first second : Candidate} (beats : Beats first second) :
    ¬ Beats second first := by
  rcases beats with ⟨isWhole, isPart⟩ | ⟨same, earlier⟩
  · rintro (⟨-, impossible⟩ | ⟨impossible, -⟩) <;> simp_all
  · rintro (⟨isWhole, isPart⟩ | ⟨-, later⟩)
    · simp_all
    · omega

theorem not_beats_trans {first second third : Candidate} (notFirst : ¬ Beats first second)
    (notSecond : ¬ Beats second third) : ¬ Beats first third := by
  simp only [Beats, not_or, not_and] at notFirst notSecond ⊢
  cases ofFirst : first.detected.exactMatch <;> cases ofSecond : second.detected.exactMatch <;>
    cases ofThird : third.detected.exactMatch <;> simp_all <;> omega

variable {settings : DetectionSettings} {text : List Char} {entity : Entity}

variable (settings) in
/-- The confidence of a candidate says whether it is a whole word. -/
def IsGraded (candidate : Candidate) : Prop :=
  candidate.detected.confidence =
    if candidate.detected.exactMatch then settings.exactConfidence
    else settings.substringConfidence

theorem improves_iff (sound : settings.IsSound) {first second : Candidate}
    (ofFirst : IsGraded settings first) (ofSecond : IsGraded settings second) :
    improves first second = true ↔ Beats first second := by
  have less := sound.less
  simp only [Double.less, Bool.and_eq_true, Bool.not_eq_true', decide_eq_true_eq] at less
  obtain ⟨⟨isNumber, alsoNumber⟩, lessKey⟩ := less
  rw [improves, Beats, ofFirst, ofSecond]
  cases first.detected.exactMatch <;> cases second.detected.exactMatch <;>
    simp [Double.less, Double.sameValue, isNumber, alsoNumber] <;> omega

/-- The best of graded candidates is beaten by none of them. -/
theorem foldl_better (sound : settings.IsSound) {candidates : List Candidate}
    {best : Option Candidate} {winner : Candidate}
    (graded : ∀ one ∈ best.toList ++ candidates, IsGraded settings one)
    (wins : candidates.foldl better best = some winner) :
    ∀ one ∈ best.toList ++ candidates, ¬ Beats one winner := by
  induction candidates generalizing best with
  | nil =>
      obtain rfl : best = some winner := wins
      exact List.forall_mem_singleton.2 (not_beats_self winner)
  | cons candidate rest ih =>
      cases best with
      | none => exact ih graded wins
      | some current =>
          simp only [Option.toList_some, List.singleton_append, List.forall_mem_cons] at graded ⊢
          obtain ⟨ofCurrent, ofCandidate, ofRest⟩ := graded
          rw [List.foldl_cons, better] at wins
          split at wins
          case isTrue improves =>
            have beats := (improves_iff sound ofCandidate ofCurrent).1 improves
            obtain ⟨ofNew, later⟩ := List.forall_mem_cons.1
              (@ih (some candidate) (List.forall_mem_cons.2 ⟨ofCandidate, ofRest⟩) wins)
            exact ⟨not_beats_trans beats.not_beats ofNew, ofNew, later⟩
          case isFalse stays =>
            have notBeats := (improves_iff sound ofCandidate ofCurrent).not.1 stays
            obtain ⟨ofOld, later⟩ := List.forall_mem_cons.1
              (@ih (some current) (List.forall_mem_cons.2 ⟨ofCurrent, ofRest⟩) wins)
            exact ⟨ofOld, not_beats_trans notBeats ofOld, later⟩

theorem isGraded_of_candidateOf? {keyword : List Char} {candidate : Candidate}
    (made : candidateOf? settings text entity keyword = some candidate) :
    IsGraded settings candidate := by
  obtain ⟨occurrence, -, rfl⟩ := Option.map_eq_some_iff.1 made
  rfl

/-- What scoring an entity comes to is the candidate that wins. -/
theorem wins_of_score? (sound : settings.IsSound) {candidate : Candidate}
    (scored : score? settings text entity = some candidate) :
    Wins settings text entity candidate := by
  have made : ∃ keyword ∈ keywords entity,
      candidateOf? settings text entity keyword = some candidate := by
    rcases mem_of_foldl_better scored with impossible | member
    · cases impossible
    · exact List.mem_filterMap.1 member
  have unbeaten : ∀ keyword ∈ keywords entity,
      ∀ other ∈ candidateOf? settings text entity keyword, ¬ Beats other candidate := by
    intro keyword isKeyword other ofOther
    refine foldl_better sound (fun one member => ?_) scored other
      (List.mem_filterMap.2 ⟨keyword, isKeyword, ofOther⟩)
    obtain ⟨keyword, -, ofOne⟩ := List.mem_filterMap.1 member
    exact isGraded_of_candidateOf? ofOne
  obtain ⟨keyword, isKeyword, made⟩ := made
  obtain ⟨occurrence, counts, rfl⟩ := Option.map_eq_some_iff.1 made
  refine ⟨rfl, ⟨keyword, isKeyword, rfl, counts⟩, ?_, rfl, ?_⟩
  · rw [String.toList_ofList]
    exact stands_of_occurrence? counts
  · intro other isOther found ofFound
    have notBeats := unbeaten other isOther _ (Option.map_eq_some_iff.2 ⟨found, ofFound, rfl⟩)
    simp only [Beats, not_or, not_and, Bool.not_eq_false, not_lt] at notBeats
    exact notBeats

theorem isSome_foldl_better {candidates : List Candidate} {best : Option Candidate} :
    (candidates.foldl better best).isSome ↔ best.isSome ∨ candidates ≠ [] := by
  induction candidates generalizing best with
  | nil => simp
  | cons candidate rest ih =>
      rw [List.foldl_cons, ih]
      refine iff_of_true (.inl ?_) (.inr (List.cons_ne_nil _ _))
      cases best with
      | none => rfl
      | some current =>
          rw [better]
          split <;> rfl

/-- An entity is a candidate exactly when it is named in the text. -/
theorem isSome_score?_iff : (score? settings text entity).isSome ↔ entity.IsNamedIn text := by
  rw [score?, isSome_foldl_better, isNamedIn_iff, Option.isSome_none,
    or_iff_right Bool.false_ne_true, Ne, List.filterMap_eq_nil_iff, not_forall]
  apply exists_congr
  intro keyword
  rw [Classical.not_imp, ← Ne, Option.ne_none_iff_isSome, candidateOf?, Option.isSome_map]
  apply and_congr_right
  intro isKeyword
  exact isSome_occurrence?_iff (ne_nil_of_mem_keywords isKeyword)

/-! ## The order of candidates -/

/-- What candidates are ranked by: less comes first. -/
def rankKey (candidate : Candidate) : ℤ ×ₗ ℤ ×ₗ ℤ ×ₗ String :=
  toLex (-candidate.detected.confidence.totalKey, toLex ((candidate.position : ℤ),
    toLex (-(byteSize candidate.detected.entityName.toList : ℤ), candidate.detected.entityName)))

theorem compareThen_ne_gt_iff {left right : Int} {tie : Ordering} :
    compareThen left right tie ≠ .gt ↔ left < right ∨ left = right ∧ tie ≠ .gt := by
  rw [compareThen]
  split
  case isTrue less => exact iff_of_true nofun (.inl less)
  case isFalse notLess =>
    split
    case isTrue greater =>
      refine iff_of_false (fun impossible => impossible rfl) ?_
      omega
    case isFalse notGreater =>
      have same : left = right := by omega
      simp [same]

theorem compareNames_ne_gt_iff {left right : String} :
    compareNames left right ≠ .gt ↔ left ≤ right := by
  rw [compareNames]
  split
  case isTrue less => exact iff_of_true nofun less.le
  case isFalse notLess =>
    split
    case isTrue greater => exact iff_of_false (fun impossible => impossible rfl) greater.not_ge
    case isFalse notGreater => exact iff_of_true nofun (not_lt.1 notGreater)

/-- Ranking compares the keys. -/
theorem rank_ne_gt_iff {first second : Candidate} :
    rank first second ≠ .gt ↔ rankKey first ≤ rankKey second := by
  have swapped (left right : Int) : -left = -right ↔ right = left := by omega
  simp only [rank, compareThen_ne_gt_iff, compareNames_ne_gt_iff, rankKey, Prod.Lex.toLex_le_toLex,
    Int.neg_lt_neg_iff, swapped]

/-- A candidate ranks before another one: it has more confidence, or the same and it stands
earlier in the text, or there and its name is longer, or as long and less. -/
def Precedes (first second : Candidate) : Prop :=
  second.detected.confidence.less first.detected.confidence = true ∨
    first.detected.confidence = second.detected.confidence ∧
      (first.position < second.position ∨ first.position = second.position ∧
        (byteSize second.detected.entityName.toList < byteSize first.detected.entityName.toList ∨
          byteSize first.detected.entityName.toList = byteSize second.detected.entityName.toList ∧
            first.detected.entityName < second.detected.entityName))

/-- Of two graded candidates either both are whole words or none is, and they have the same
confidence, or the one that is has more. -/
theorem confidence_cases (sound : settings.IsSound) {first second : Candidate}
    (ofFirst : IsGraded settings first) (ofSecond : IsGraded settings second) :
    (first.detected.exactMatch = second.detected.exactMatch ∧
        first.detected.confidence = second.detected.confidence) ∨
      (first.detected.exactMatch = true ∧
        second.detected.confidence.less first.detected.confidence = true) ∨
      (second.detected.exactMatch = true ∧
        first.detected.confidence.less second.detected.confidence = true) := by
  rw [ofFirst, ofSecond]
  have less := sound.less
  cases first.detected.exactMatch <;> cases second.detected.exactMatch <;> simp [less]

theorem precedes_of_rankKey_lt (sound : settings.IsSound) {first second : Candidate}
    (ofFirst : IsGraded settings first) (ofSecond : IsGraded settings second)
    (less : rankKey first < rankKey second) : Precedes first second := by
  simp only [rankKey, Prod.Lex.toLex_lt_toLex, Int.neg_lt_neg_iff, Int.neg_inj, Int.ofNat_lt,
    Int.ofNat_inj] at less
  rcases confidence_cases sound ofFirst ofSecond with ⟨-, same⟩ | ⟨-, more⟩ | ⟨-, isLess⟩
  · rw [same] at less
    exact .inr ⟨same, (less.resolve_left (lt_irrefl _)).2⟩
  · exact .inl more
  · have := Double.totalKey_lt_of_less isLess
    omega

/-- Only a whole word precedes a whole word. -/
theorem Precedes.exactMatch (sound : settings.IsSound) {first second : Candidate}
    (ofFirst : IsGraded settings first) (ofSecond : IsGraded settings second)
    (precedes : Precedes first second) (isWhole : second.detected.exactMatch = true) :
    first.detected.exactMatch = true := by
  rcases confidence_cases sound ofFirst ofSecond with ⟨same, -⟩ | ⟨isFirst, -⟩ | ⟨-, isLess⟩
  · exact same.trans isWhole
  · exact isFirst
  · have lessKey := Double.totalKey_lt_of_less isLess
    rcases precedes with more | ⟨same, -⟩
    · have moreKey := Double.totalKey_lt_of_less more
      omega
    · rw [same] at lessKey
      exact absurd lessKey (lt_irrefl _)

/-! ## Ranked candidates -/

/-- The candidates of a text, one for each entity that is named there. -/
def candidates (settings : DetectionSettings) (catalog : Catalog) (text : List Char) :
    List Candidate :=
  catalog.entities.filterMap (score? settings text)

/-- Ranked candidates have different names. -/
theorem pairwise_name_ranked (settings : DetectionSettings) (catalog : Catalog)
    (text : List Char) :
    (ranked (candidates settings catalog text)).Pairwise fun first second =>
      first.detected.entityName ≠ second.detected.entityName := by
  have distinct : (candidates settings catalog text).Pairwise fun first second =>
      first.detected.entityName ≠ second.detected.entityName := by
    refine List.pairwise_filterMap.2 (catalog.ordered.imp ?_)
    intro first second below one ofFirst other ofSecond
    rw [entityName_of_score? ofFirst, entityName_of_score? ofSecond]
    exact below.ne
  exact (List.mergeSort_perm _ _).symm.pairwise distinct Ne.symm

/-- **Ranking puts candidates into one strict order.** -/
theorem pairwise_ranked (settings : DetectionSettings) (catalog : Catalog) (text : List Char) :
    (ranked (candidates settings catalog text)).Pairwise fun first second =>
      rankKey first < rankKey second := by
  have inOrder : (ranked (candidates settings catalog text)).Pairwise fun first second =>
      rankKey first ≤ rankKey second := by
    refine (List.pairwise_mergeSort ?_ ?_ _).imp fun isRanked =>
      rank_ne_gt_iff.1 (bne_iff_ne.1 isRanked)
    · intro first second third isFirst isSecond
      simp only [bne_iff_ne, rank_ne_gt_iff] at isFirst isSecond ⊢
      exact isFirst.trans isSecond
    · intro first second
      simp only [Bool.or_eq_true, bne_iff_ne, rank_ne_gt_iff]
      exact le_total _ _
  have distinct := pairwise_name_ranked settings catalog text
  refine (inOrder.and distinct).imp fun ⟨atMost, apart⟩ => lt_of_le_of_ne atMost fun same => ?_
  exact apart (congrArg (fun key => (ofLex (ofLex (ofLex key).2).2).2) same)

/-- The ranked candidates are those that win for an entity that is named. -/
theorem mem_ranked_iff {catalog : Catalog} {candidate : Candidate} :
    candidate ∈ ranked (candidates settings catalog text) ↔
      ∃ entity ∈ catalog.entities, score? settings text entity = some candidate := by
  rw [ranked, List.mem_mergeSort, candidates, List.mem_filterMap]

theorem isGraded_of_mem_ranked (sound : settings.IsSound) {catalog : Catalog}
    {candidate : Candidate} (member : candidate ∈ ranked (candidates settings catalog text)) :
    IsGraded settings candidate := by
  obtain ⟨entity, -, scored⟩ := mem_ranked_iff.1 member
  exact (wins_of_score? sound scored).confidence

theorem confident_sublist (settings : DetectionSettings) (given : List Candidate) :
    (confident settings given).Sublist given := by
  rw [confident]
  split
  · exact List.Sublist.refl _
  · exact List.filter_sublist

theorem confident_eq_nil_iff {given : List Candidate} :
    confident settings given = [] ↔ given = [] := by
  rw [confident]
  split
  case isTrue => exact Iff.rfl
  case isFalse some =>
    refine iff_of_false (fun none => some (List.isEmpty_iff.2 none)) ?_
    rintro rfl
    exact some rfl

/-- A candidate that is left out for want of confidence has less than it must have, while another
one has not. -/
theorem less_of_not_mem_confident (sound : settings.IsSound) {given : List Candidate}
    {candidate : Candidate} (graded : IsGraded settings candidate) (member : candidate ∈ given)
    (leftOut : candidate ∉ confident settings given) :
    candidate.detected.confidence.less settings.minConfidence = true ∧
      ∃ surer ∈ given, settings.minConfidence.atMost surer.detected.confidence = true := by
  rw [confident] at leftOut
  split at leftOut
  case isTrue => exact absurd member leftOut
  case isFalse some =>
    have notSure : ¬ settings.minConfidence.atMost candidate.detected.confidence = true := by
      intro isSure
      exact leftOut (List.mem_filter.2 ⟨member, isSure⟩)
    have isNumber : candidate.detected.confidence.isNaN = false := by
      have less := sound.less
      simp only [Double.less, Bool.and_eq_true, Bool.not_eq_true'] at less
      rw [graded]
      split
      · exact less.1.2
      · exact less.1.1
    refine ⟨?_, ?_⟩
    · simp only [Double.atMost, sound.isNumber, isNumber, Bool.not_false, Bool.true_and,
        decide_eq_true_eq, not_le] at notSure
      simp [Double.less, sound.isNumber, isNumber, notSure]
    · obtain ⟨surer, isSurer⟩ :=
        List.exists_mem_of_ne_nil _ fun none => some (List.isEmpty_iff.2 none)
      obtain ⟨isGiven, isSure⟩ := List.mem_filter.1 isSurer
      exact ⟨surer, isGiven, isSure⟩

/-! ## What is handed on -/

/-- The candidates that are found in a text for the entities that are candidates. -/
structure IsSelection (settings : DetectionSettings) (catalog : Catalog) (text : List Char)
    (isCandidate : Entity → Prop) (found : List Candidate) : Prop where
  /-- What is found are candidates, each with its best keyword. -/
  sound : ∀ one ∈ found, ∃ entity ∈ catalog.entities, isCandidate entity ∧
    Wins settings text entity one
  /-- No entity is found twice. -/
  distinct : (found.map (·.detected.entityName)).Nodup
  bounded : found.length ≤ settings.maxEntities
  /-- Whole words come first. -/
  exactFirst : found.Pairwise fun first second =>
    second.detected.exactMatch = true → first.detected.exactMatch = true
  ordered : found.Pairwise Precedes
  /-- A candidate that is left out is less sure than it must be while another one is not, or comes
  after all that are found, which are as many as may be. -/
  complete : ∀ entity ∈ catalog.entities, isCandidate entity →
    ∃ one, Wins settings text entity one ∧
      (one ∈ found ∨
        (one.detected.confidence.less settings.minConfidence = true ∧
          ∃ other ∈ catalog.entities, isCandidate other ∧ ∃ surer,
            Wins settings text other surer ∧
              settings.minConfidence.atMost surer.detected.confidence = true) ∨
        (found.length = settings.maxEntities ∧ ∀ earlier ∈ found, Precedes earlier one))
  /-- Nothing is found only where nothing is a candidate. -/
  empty : found = [] → ∀ entity ∈ catalog.entities, ¬ isCandidate entity

/-- The candidates that are found in a text. -/
def found (settings : DetectionSettings) (catalog : Catalog) (text : List Char) :
    List Candidate :=
  (confident settings (ranked (candidates settings catalog text))).take settings.maxEntities

theorem found_sublist (settings : DetectionSettings) (catalog : Catalog) (text : List Char) :
    (found settings catalog text).Sublist (ranked (candidates settings catalog text)) :=
  (List.take_sublist _ _).trans (confident_sublist settings _)

/-- Something is found in a text that names an entity. -/
theorem found_ne_nil (sound : settings.IsSound) {catalog : Catalog} {candidate : Candidate}
    (member : candidate ∈ ranked (candidates settings catalog text)) :
    found settings catalog text ≠ [] := by
  have some := sound.some
  rw [found, Ne, List.take_eq_nil_iff, confident_eq_nil_iff, not_or]
  exact ⟨by omega, List.ne_nil_of_mem member⟩

/-- A confident candidate is found, or the list is full and it comes after all that are found. -/
theorem mem_found_or {catalog : Catalog} {candidate : Candidate}
    (member : candidate ∈ confident settings (ranked (candidates settings catalog text))) :
    candidate ∈ found settings catalog text ∨
      ((found settings catalog text).length = settings.maxEntities ∧
        ∀ earlier ∈ found settings catalog text, rankKey earlier < rankKey candidate) := by
  have inOrder := (pairwise_ranked settings catalog text).sublist (confident_sublist settings _)
  rw [← List.take_append_drop settings.maxEntities (confident _ _)] at member inOrder
  rcases List.mem_append.1 member with isFound | isCut
  · exact .inl isFound
  · refine .inr ⟨?_, fun earlier isFound => ?_⟩
    · have more := List.length_pos_of_mem isCut
      rw [List.length_drop] at more
      rw [found, List.length_take]
      omega
    · exact (List.pairwise_append.1 inOrder).2.2 earlier isFound candidate isCut

/-- **Detection selects soundly and completely.**

For every question and every catalog, and all settings that are accepted, what is detected are
entities that are named in the question, each once and with its best keyword, at most as many as may
be, in strict order, whole words first.  An entity that is named is left out only where it is not
sure and another one is, or where the list is full and the entity comes after all of it; and nothing
is detected only where nothing is named. -/
theorem detect_isSelection (settings : Settings) (valid : settings.check = .ok ())
    (catalog : Catalog) (question : String) :
    ∃ found, detect settings.detection catalog question = found.map (·.detected) ∧
      IsSelection settings.detection catalog (lower question.toList)
        (·.IsNamedIn (lower question.toList)) found := by
  have sound := Settings.isSound_of_check valid
  generalize settings.detection = settings at sound
  refine ⟨found settings catalog (lower question.toList), rfl, ?_⟩
  generalize lower question.toList = text
  have inOrder := (pairwise_ranked settings catalog text).sublist (found_sublist _ _ _)
  have isRanked : ∀ one ∈ found settings catalog text,
      one ∈ ranked (candidates settings catalog text) := by
    intro one member
    exact (found_sublist settings catalog text).subset member
  have graded : ∀ one ∈ found settings catalog text, IsGraded settings one := by
    intro one member
    exact isGraded_of_mem_ranked sound (isRanked one member)
  have named {entity : Entity} {one : Candidate}
      (scored : score? settings text entity = some one) : entity.IsNamedIn text :=
    isSome_score?_iff.1 (Option.isSome_of_eq_some scored)
  have precedes : (found settings catalog text).Pairwise Precedes :=
    inOrder.imp_of_mem fun ofFirst ofSecond =>
      precedes_of_rankKey_lt sound (graded _ ofFirst) (graded _ ofSecond)
  refine ⟨?_, ?_, List.length_take_le _ _, ?_, precedes, ?_, ?_⟩
  case refine_1 =>
    intro one member
    obtain ⟨entity, isEntity, scored⟩ := mem_ranked_iff.1 (isRanked one member)
    exact ⟨entity, isEntity, named scored, wins_of_score? sound scored⟩
  case refine_2 =>
    exact List.pairwise_map.2
      ((pairwise_name_ranked settings catalog text).sublist (found_sublist _ _ _))
  case refine_3 =>
    exact precedes.imp_of_mem fun ofFirst ofSecond earlier =>
      earlier.exactMatch sound (graded _ ofFirst) (graded _ ofSecond)
  case refine_4 =>
    intro entity isEntity isNamed
    obtain ⟨one, scored⟩ := Option.isSome_iff_exists.1 (isSome_score?_iff.2 isNamed)
    have member := mem_ranked_iff.2 ⟨entity, isEntity, scored⟩
    have ofOne := isGraded_of_mem_ranked sound member
    refine ⟨one, wins_of_score? sound scored, ?_⟩
    by_cases sure : one ∈ confident settings (ranked (candidates settings catalog text))
    · rcases mem_found_or sure with isFound | ⟨full, after⟩
      · exact .inl isFound
      · exact .inr (.inr ⟨full, fun earlier isFound =>
          precedes_of_rankKey_lt sound (graded earlier isFound) ofOne (after earlier isFound)⟩)
    · obtain ⟨less, surer, isSurer, isSure⟩ := less_of_not_mem_confident sound ofOne member sure
      obtain ⟨other, isOther, ofOther⟩ := mem_ranked_iff.1 isSurer
      exact .inr (.inl ⟨less, other, isOther, named ofOther, surer,
        wins_of_score? sound ofOther, isSure⟩)
  case refine_5 =>
    intro none entity isEntity isNamed
    obtain ⟨one, scored⟩ := Option.isSome_iff_exists.1 (isSome_score?_iff.2 isNamed)
    exact found_ne_nil sound (mem_ranked_iff.2 ⟨entity, isEntity, scored⟩) none

/-- The default settings are accepted. -/
theorem check_default : ({} : Settings).check = .ok () := by
  decide +kernel

/-- What is detected in a question about items is a selection, and not an empty one. -/
theorem detect_isSelection_items :
    ({} : Settings).check = .ok () ∧
      ∃ found, detect {} Check.itemCatalog "list items" = found.map (·.detected) ∧
        IsSelection {} Check.itemCatalog (lower "list items".toList)
          (·.IsNamedIn (lower "list items".toList)) found ∧ found ≠ [] := by
  obtain ⟨found, detects, selects⟩ :=
    detect_isSelection {} check_default Check.itemCatalog "list items"
  refine ⟨check_default, found, detects, selects, ?_⟩
  rintro rfl
  have some : detect {} Check.itemCatalog "list items" ≠ [] := by decide +kernel
  exact some detects

/-- A catalog whose one entity has a blank alias. -/
def blankAliasCatalog : Catalog :=
  .alone { name := "Item", fields := [], aliases := [""] } Check.itemCatalog_isNamed

/-- A blank alias is spelled by the empty text, which stands in every question; but it detects
nothing. -/
theorem not_isSelection_blankAlias :
    ({} : Settings).check = .ok () ∧
      ¬ ∃ found, detect {} blankAliasCatalog "hello" = found.map (·.detected) ∧
        IsSelection {} blankAliasCatalog (lower "hello".toList)
          (·.IsMentionedIn (lower "hello".toList)) found := by
  refine ⟨check_default, ?_⟩
  rintro ⟨found, detects, selects⟩
  have nothing : detect {} blankAliasCatalog "hello" = [] := by decide +kernel
  rw [nothing] at detects
  have none := List.map_eq_nil_iff.1 detects.symm
  apply selects.empty none _ (List.mem_singleton.2 rfl)
  exact ⟨"", by simp, [], by decide, List.nil_infix⟩

end Detection

end Inquiry
