import Inquiry.Catalog.Basic
import Inquiry.Settings.Basic
import Inquiry.Text.Alphanumeric
import Inquiry.Text.Span

/-!
# Detecting the entities of a question

Every entity has keywords: its name and its aliases in lower case, with the
words joined by one blank or by nothing, and the simple plurals of these.  An
entity is a candidate for a question when one of its keywords occurs in the
lower-cased question; it counts more when the keyword stands there as a whole
word.  Candidates are ranked by confidence, then by where they are mentioned,
then by the length of the name, then by the name; the sure ones, or all if
none is sure, are cut to the number that is handed on.
-/

set_option autoImplicit false

namespace Inquiry

/-- An entity found in a question. -/
structure Detected where
  entityName : String
  confidence : Double
  /-- Whether the keyword stands in the question as a whole word. -/
  exactMatch : Bool
  /-- The keyword that decided the confidence. -/
  matchedKeyword : String
deriving DecidableEq

namespace Detection

open Inquiry.Text

/-! ## Keywords -/

/-- Words joined by one blank. -/
def joinWords : List (List Char) → List Char
  | [] => []
  | [word] => word
  | word :: rest => word ++ ' ' :: joinWords rest

/-- The simple plural of a keyword, unless it ends in an s. -/
def plural? (keyword : List Char) : Option (List Char) :=
  if keyword.getLast? = some 's' then none else some (keyword ++ ['s'])

/-- The keywords of one phrase: spaced and compact, each with its plural. -/
def phraseKeywords (phrase : String) : List (List Char) :=
  let spaced := lower (joinWords (words phrase.toList))
  if spaced.isEmpty then []
  else
    let compact := spaced.filter (· != ' ')
    [spaced] ++ (plural? spaced).toList ++ [compact] ++ (plural? compact).toList

/-- A list with each item kept only where it comes first. -/
def firstOnly : List (List Char) → List (List Char) → List (List Char)
  | seen, [] => seen
  | seen, keyword :: rest =>
      firstOnly (if seen.contains keyword then seen else seen ++ [keyword]) rest

/-- The keywords of an entity, in order and each once. -/
def keywords (entity : Entity) : List (List Char) :=
  firstOnly [] ((entity.name :: entity.aliases).flatMap phraseKeywords)

/-! ## Occurrences -/

/-- A place where a keyword occurs. -/
structure Occurrence where
  /-- The byte offset of the place. -/
  offset : Nat
  /-- Whether no word character stands directly before or after. -/
  bounded : Bool
deriving DecidableEq

/-- Whether a character beside an occurrence, if there is one, leaves it a whole word. -/
def bounds (neighbour : Option Char) : Bool :=
  neighbour.all (fun symbol => !isWordPart symbol)

/-- The occurrences of a keyword from left to right, none overlapping an earlier one.

`before` is the character in front of the rest of the text, `offset` the place of that rest, and
`skip` counts the characters that belong to the last occurrence. -/
def occurrencesFrom (keyword : List Char) :
    (before : Option Char) → (offset skip : Nat) → List Char → List Occurrence
  | _, _, _, [] => []
  | _, offset, skip + 1, symbol :: rest =>
      occurrencesFrom keyword (some symbol) (offset + symbol.utf8Size) skip rest
  | before, offset, 0, symbol :: rest =>
      match keyword.isPrefixOf? (symbol :: rest) with
      | some after =>
          ⟨offset, bounds before && bounds after.head?⟩ ::
            occurrencesFrom keyword (some symbol) (offset + symbol.utf8Size) (keyword.length - 1)
              rest
      | none => occurrencesFrom keyword (some symbol) (offset + symbol.utf8Size) 0 rest

/-- The occurrence that counts: the first whole word, else the first at all. -/
def occurrence? (keyword text : List Char) : Option Occurrence :=
  let found := occurrencesFrom keyword none 0 0 text
  match found.find? (·.bounded) with
  | some occurrence => some occurrence
  | none => found.head?

/-! ## Candidates -/

/-- A detected entity and where its keyword stands. -/
structure Candidate where
  detected : Detected
  position : Nat
deriving DecidableEq

/-- The candidate that one keyword makes of an entity. -/
def candidateOf? (settings : DetectionSettings) (text : List Char) (entity : Entity)
    (keyword : List Char) : Option Candidate :=
  (occurrence? keyword text).map fun occurrence =>
    { detected :=
        { entityName := entity.name
          confidence :=
            if occurrence.bounded then settings.exactConfidence else settings.substringConfidence
          exactMatch := occurrence.bounded
          matchedKeyword := String.ofList keyword }
      position := occurrence.offset }

/-- Whether a candidate replaces an earlier one of the same entity. -/
def improves (candidate current : Candidate) : Bool :=
  current.detected.confidence.less candidate.detected.confidence ||
    (candidate.detected.confidence.sameValue current.detected.confidence &&
      candidate.position < current.position)

/-- The better of the best candidate so far and another one. -/
def better (best : Option Candidate) (candidate : Candidate) : Option Candidate :=
  match best with
  | none => some candidate
  | some current => if improves candidate current then some candidate else some current

/-- The best candidate that the keywords of an entity make of it. -/
def score? (settings : DetectionSettings) (text : List Char) (entity : Entity) :
    Option Candidate :=
  ((keywords entity).filterMap (candidateOf? settings text entity)).foldl better none

/-! ## Ranking -/

/-- The order of two numbers, or the order that decides a tie. -/
def compareThen (left right : Int) (tie : Ordering) : Ordering :=
  if left < right then .lt else if right < left then .gt else tie

/-- The order of two names by code points. -/
def compareNames (left right : String) : Ordering :=
  if left < right then .lt else if right < left then .gt else .eq

/-- The order of candidates: higher confidence, earlier mention, longer name, lesser name. -/
def rank (first second : Candidate) : Ordering :=
  compareThen second.detected.confidence.totalKey first.detected.confidence.totalKey <|
    compareThen first.position second.position <|
      compareThen (byteSize second.detected.entityName.toList)
        (byteSize first.detected.entityName.toList) <|
        compareNames first.detected.entityName second.detected.entityName

/-- Candidates in order of rank. -/
def ranked (candidates : List Candidate) : List Candidate :=
  candidates.mergeSort (fun first second => rank first second != .gt)

/-- The candidates that reach the least confidence, or all if none does. -/
def confident (settings : DetectionSettings) (candidates : List Candidate) : List Candidate :=
  let sure := candidates.filter fun candidate =>
    settings.minConfidence.atMost candidate.detected.confidence
  if sure.isEmpty then candidates else sure

/-- The entities of a question, ranked. -/
def detect (settings : DetectionSettings) (catalog : Catalog) (question : String) :
    List Detected :=
  let text := lower question.toList
  let candidates := ranked (catalog.entities.filterMap (score? settings text))
  ((confident settings candidates).take settings.maxEntities).map (·.detected)

end Detection

end Inquiry
