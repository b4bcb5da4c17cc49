/-!
# Sets of characters given by ranges

A property of characters that a standard lays down is kept as a table of
ranges of code points, and a character is looked up by halving the table.  For
this the ranges must come in increasing order and must not overlap, so a table
carries the proof that they do.
-/

set_option autoImplicit false

namespace Inquiry.Text

/-- Whether ranges, both ends included, come in increasing order and are pairwise disjoint. -/
def Ranges.isOrdered : List (Nat × Nat) → Bool
  | (first, last) :: (next, stop) :: rest =>
      first ≤ last && last < next && isOrdered ((next, stop) :: rest)
  | [(first, last)] => first ≤ last
  | [] => true

/-- Ranges of code points in increasing order. -/
structure Ranges where
  entries : Array (Nat × Nat)
  ordered : Ranges.isOrdered entries.toList = true

namespace Ranges

/-- Whether a code point lies in a range with an index from `low` up to, but not including, `high`.

Each step halves the stretch, so as many steps as the size has binary digits are enough. -/
def holdsWithin (table : Ranges) (code : Nat) : (steps low high : Nat) → Bool
  | 0, _, _ => false
  | steps + 1, low, high =>
      if high ≤ low then false
      else
        let middle := (low + high) / 2
        match table.entries[middle]? with
        | none => false
        | some (first, last) =>
            if code < first then holdsWithin table code steps low middle
            else if last < code then holdsWithin table code steps (middle + 1) high
            else true

/-- Whether a character lies in one of the ranges. -/
def holds (table : Ranges) (symbol : Char) : Bool :=
  holdsWithin table symbol.toNat (table.entries.size.log2 + 2) 0 table.entries.size

end Ranges

end Inquiry.Text
