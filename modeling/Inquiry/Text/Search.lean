/-!
# Searching a text

Whether a text holds a pattern, and what stands before and after the first
place where it does.
-/

set_option autoImplicit false

namespace Inquiry.Text

/-- The texts before and after the first occurrence of a pattern. -/
def cutAt? (pattern : List Char) : List Char → Option (List Char × List Char)
  | [] => (pattern.isPrefixOf? []).map ([], ·)
  | symbol :: rest =>
      match pattern.isPrefixOf? (symbol :: rest) with
      | some after => some ([], after)
      | none =>
          match cutAt? pattern rest with
          | some (before, after) => some (symbol :: before, after)
          | none => none

/-- Whether a pattern occurs in a text. -/
def holds (text pattern : List Char) : Bool := (cutAt? pattern text).isSome

/-- Whether the pattern of a string occurs in a text. -/
def mentions (text : List Char) (pattern : String) : Bool := holds text pattern.toList

/-- What is left after a pattern at the start, put after the pattern, is the text. -/
theorem append_of_isPrefixOf? {pattern text rest : List Char}
    (found : pattern.isPrefixOf? text = some rest) : pattern ++ rest = text := by
  induction pattern generalizing text with
  | nil => exact (Option.some.inj found).symm
  | cons symbol pattern ih =>
      cases text with
      | nil => cases found
      | cons first text =>
          have found :
              (if symbol == first then pattern.isPrefixOf? text else none) = some rest := found
          split at found
          case isTrue same =>
            rw [List.cons_append, ih found, eq_of_beq same]
          · simp at found

end Inquiry.Text
