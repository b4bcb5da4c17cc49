/-!
# Spans of a text

A text is laid out in bytes, every character taking one to four.  A span is a
stretch of the text given by two byte offsets.  Reading a text into pieces
whose characters, put together, are the text again gives every piece its span:
`layOut` runs through the pieces and adds up their sizes.  So the spans of
pieces follow one another without gaps, and every end of a span is a place
between two characters.
-/

set_option autoImplicit false

namespace Inquiry.Text

/-- How many bytes a text takes. -/
def byteSize : List Char → Nat
  | [] => 0
  | symbol :: rest => symbol.utf8Size + byteSize rest

/-- A stretch of a text, from the byte at `start` up to, but not including, the byte at `stop`. -/
structure Span where
  start : Nat
  stop : Nat
deriving DecidableEq

namespace Span

/-- Whether a byte offset lies in the span. -/
def holds (span : Span) (offset : Nat) : Bool :=
  span.start ≤ offset && offset < span.stop

end Span

variable {Piece : Type}

/-- Pieces laid out one after the other from a byte offset, each with its span. -/
def layOut (charactersOf : Piece → List Char) : (offset : Nat) → List Piece → List (Span × Piece)
  | _, [] => []
  | offset, piece :: rest =>
      let stop := offset + byteSize (charactersOf piece)
      (⟨offset, stop⟩, piece) :: layOut charactersOf stop rest

/-- The size of two texts together is the sum of their sizes. -/
@[simp] theorem byteSize_append (first second : List Char) :
    byteSize (first ++ second) = byteSize first + byteSize second := by
  induction first with
  | nil => simp [byteSize]
  | cons symbol rest ih => simp [byteSize, ih, Nat.add_assoc]

/-- Laying pieces out keeps them and their order. -/
@[simp] theorem map_snd_layOut (charactersOf : Piece → List Char) (offset : Nat)
    (pieces : List Piece) : (layOut charactersOf offset pieces).map Prod.snd = pieces := by
  induction pieces generalizing offset with
  | nil => rfl
  | cons piece rest ih => simp [layOut, ih]

end Inquiry.Text
