import Inquiry.Number.Double

/-!
# How alike two texts are

The Jaro similarity counts the characters that two texts share at places not
too far apart, and how many of them stand in another order.  Jaro and Winkler's
similarity adds to a high one for the characters that the texts begin with in
common.  Every quotient, sum and product is rounded to a double in the order in
which it is written here.
-/

set_option autoImplicit false

namespace Inquiry.Text

/-- The first index from `low` to below `high` at which an unused character of a text equals the
given one. -/
def firstMatch (symbol : Char) (low high : Nat) : (index : Nat) → List (Char × Bool) → Option Nat
  | _, [] => none
  | index, (other, used) :: rest =>
      if high ≤ index then none
      else if low ≤ index && !used && other = symbol then some index
      else firstMatch symbol low high (index + 1) rest

/-- The characters of the first text with whether each found a partner, and the same of the
second text, when characters at most `range` places apart may be partners. -/
def partners (range : Nat) :
    (index : Nat) → List Char → List (Char × Bool) → List (Char × Bool) × List (Char × Bool)
  | _, [], second => ([], second)
  | index, symbol :: rest, second =>
      match firstMatch symbol (index - range) (index + range + 1) 0 second with
      | none =>
          let (marked, second) := partners range (index + 1) rest second
          ((symbol, false) :: marked, second)
      | some found =>
          let (marked, second) := partners range (index + 1) rest (second.set found (symbol, true))
          ((symbol, true) :: marked, second)

/-- The characters that found a partner, in order. -/
def matchedSymbols (marked : List (Char × Bool)) : List Char :=
  (marked.filter (·.2)).map Prod.fst

/-- The Jaro similarity of two texts. -/
def jaro (first second : List Char) : Double :=
  if first.isEmpty && second.isEmpty then Double.one
  else if first.isEmpty || second.isEmpty then Double.zero
  else
    let range := max first.length second.length / 2 - 1
    let (firstMarked, secondMarked) := partners range 0 first (second.map (·, false))
    let firstMatched := matchedSymbols firstMarked
    let secondMatched := matchedSymbols secondMarked
    let count := firstMatched.length
    let moved := ((firstMatched.zip secondMatched).filter (fun (a, b) => a != b)).length / 2
    if count = 0 then Double.zero
    else
      let matched := Double.ofNat count
      (((matched.div (Double.ofNat first.length)).add
        (matched.div (Double.ofNat second.length))).add
        ((Double.ofNat (count - moved)).div matched)).div (Double.ofNat 3)

/-- How many characters two texts begin with in common. -/
def commonStart : List Char → List Char → Nat
  | symbol :: first, other :: second => if symbol = other then commonStart first second + 1 else 0
  | _, _ => 0

/-- A Jaro similarity above this is raised for a common start. -/
def raisedAbove : Double := Double.ofDecimal false 7 (-1)

/-- The weight of each common character at the start. -/
def startWeight : Double := Double.ofDecimal false 1 (-1)

/-- Jaro and Winkler's similarity of two texts, at most four common characters counting. -/
def jaroWinkler (first second : List Char) : Double :=
  let similarity := jaro first second
  if raisedAbove.less similarity then
    let common := commonStart (first.take 4) second
    similarity.add
      ((startWeight.mul (Double.ofNat common)).mul (Double.one.sub similarity))
  else similarity

end Inquiry.Text
