import Inquiry.Proofs.Segments

/-!
# Cutting texts at bytes

A place in a text is given by the number of bytes in front of it.  A text can
be cut there only if the place lies between two characters (`cut?`).  The same
goes for the two ends of a span that is copied out of a text (`slice?`) or
written over (`splice?`): within a character, behind the end of the text, or
with its ends the wrong way round, a span gives nothing.

Spans can be cut out of a text when none is empty, each begins and ends between
two characters, and each begins where the one before it has ended (`CutOut`).
When a text is read into pieces, any of the pieces have such spans
(`cutOut_of_sublist`).
-/

set_option autoImplicit false

namespace Inquiry.Text

/-! ## Bytes -/

/-- The bytes of a text. -/
def bytes (text : List Char) : List UInt8 := text.flatMap String.utf8EncodeChar

@[simp] theorem bytes_nil : bytes [] = [] := rfl

@[simp] theorem bytes_append (first second : List Char) :
    bytes (first ++ second) = bytes first ++ bytes second := List.flatMap_append

theorem bytes_cons (symbol : Char) (rest : List Char) :
    bytes (symbol :: rest) = String.utf8EncodeChar symbol ++ bytes rest := List.flatMap_cons

@[simp] theorem length_bytes (text : List Char) : (bytes text).length = byteSize text := by
  induction text with
  | nil => rfl
  | cons symbol rest ih =>
      rw [bytes_cons, List.length_append, String.length_utf8EncodeChar, ih, byteSize]

/-- The byte of a character that has only one. -/
theorem utf8EncodeChar_of_narrow {symbol : Char} (narrow : symbol.toNat < 128) :
    String.utf8EncodeChar symbol = [symbol.toUInt8] := by
  have size : symbol.utf8Size = 1 := by
    rw [Char.utf8Size_eq_one_iff, UInt32.le_iff_toNat_le]
    exact Nat.le_of_lt_succ narrow
  rw [String.utf8EncodeChar_eq_singleton size, Char.toUInt8_val]

/-- The bytes of a wide character are no bytes of narrow ones. -/
theorem le_toNat_of_mem_wide {symbol : Char} (wide : 128 ≤ symbol.toNat) {byte : UInt8}
    (member : byte ∈ String.utf8EncodeChar symbol) : 128 ≤ byte.toNat := by
  rw [String.utf8EncodeChar.eq_1, Char.toNat_val, if_neg (by omega)] at member
  split at member
  · simp only [List.mem_cons, List.not_mem_nil, or_false] at member
    rcases member with rfl | rfl <;> rw [UInt8.toNat_ofNat'] <;> omega
  split at member <;> simp only [List.mem_cons, List.not_mem_nil, or_false] at member
  · rcases member with rfl | rfl | rfl <;> rw [UInt8.toNat_ofNat'] <;> omega
  · rcases member with rfl | rfl | rfl | rfl <;> rw [UInt8.toNat_ofNat'] <;> omega

theorem toNat_toUInt8 {symbol : Char} (narrow : symbol.toNat < 128) :
    symbol.toUInt8.toNat = symbol.toNat := by
  show symbol.toNat % 256 = symbol.toNat
  omega

/-- **A byte of a narrow character stands in a text only where the character stands.** -/
theorem toUInt8_mem_iff {mark symbol : Char} (narrow : mark.toNat < 128) :
    mark.toUInt8 ∈ String.utf8EncodeChar symbol ↔ symbol = mark := by
  constructor
  · intro member
    by_cases wide : 128 ≤ symbol.toNat
    · have high := le_toNat_of_mem_wide wide member
      rw [toNat_toUInt8 narrow] at high
      omega
    · rw [Nat.not_le] at wide
      rw [utf8EncodeChar_of_narrow wide, List.mem_singleton] at member
      have same := congrArg UInt8.toNat member
      rw [toNat_toUInt8 narrow, toNat_toUInt8 wide] at same
      exact Char.toNat_inj.1 same.symm
  · rintro rfl
    rw [utf8EncodeChar_of_narrow narrow]
    exact List.mem_singleton_self _

theorem exists_utf8EncodeChar_eq_cons (symbol : Char) :
    ∃ first later, String.utf8EncodeChar symbol = first :: later ∧
      ∀ byte ∈ later, 128 ≤ byte.toNat := by
  by_cases wide : 128 ≤ symbol.toNat
  · cases same : String.utf8EncodeChar symbol with
    | nil =>
        have size := symbol.utf8Size_pos
        rw [← String.length_utf8EncodeChar, same] at size
        exact absurd size (Nat.lt_irrefl 0)
    | cons first later =>
        refine ⟨first, later, rfl, fun byte member => le_toNat_of_mem_wide wide ?_⟩
        rw [same]
        exact List.mem_cons_of_mem _ member
  · rw [utf8EncodeChar_of_narrow (Nat.not_le.1 wide)]
    exact ⟨_, [], rfl, fun _ member => by cases member⟩

theorem bytes_cons_narrow {symbol : Char} (narrow : symbol.toNat < 128) (rest : List Char) :
    bytes (symbol :: rest) = symbol.toUInt8 :: bytes rest := by
  rw [bytes_cons, utf8EncodeChar_of_narrow narrow, List.singleton_append]

theorem toUInt8_mem_bytes_iff {mark : Char} (narrow : mark.toNat < 128) {text : List Char} :
    mark.toUInt8 ∈ bytes text ↔ mark ∈ text := by
  simp [bytes, toUInt8_mem_iff narrow]

theorem head?_bytes_eq_iff {mark : Char} (narrow : mark.toNat < 128) {text : List Char} :
    (bytes text).head? = some mark.toUInt8 ↔ text.head? = some mark := by
  cases text with
  | nil => simp
  | cons symbol rest =>
      obtain ⟨first, later, encoded, -⟩ := exists_utf8EncodeChar_eq_cons symbol
      rw [bytes_cons, encoded, List.cons_append, List.head?_cons, List.head?_cons,
        Option.some.injEq, Option.some.injEq]
      constructor
      · rintro rfl
        apply (toUInt8_mem_iff narrow).1
        rw [encoded]
        exact List.mem_cons_self ..
      · rintro rfl
        rw [utf8EncodeChar_of_narrow narrow] at encoded
        exact (List.cons.inj encoded).1.symm

/-! ## Cutting -/

/-- The text in front of a place and the text behind it, if the place is between characters. -/
def cut? (place : Nat) : List Char → Option (List Char × List Char)
  | [] => if place = 0 then some ([], []) else none
  | symbol :: rest =>
      if place = 0 then some ([], symbol :: rest)
      else if symbol.utf8Size ≤ place then
        (cut? (place - symbol.utf8Size) rest).map fun (front, back) => (symbol :: front, back)
      else none

/-- The part of a text that a span holds. -/
def slice? (text : List Char) (span : Span) : Option (List Char) := do
  let (front, _) ← cut? span.stop text
  let (_, inside) ← cut? span.start front
  return inside

/-- A text with another one written over a span. -/
def splice? (span : Span) (new text : List Char) : Option (List Char) := do
  let (front, back) ← cut? span.stop text
  let (kept, _) ← cut? span.start front
  return kept ++ new ++ back

theorem cut?_append (front back : List Char) :
    cut? (byteSize front) (front ++ back) = some (front, back) := by
  induction front with
  | nil => cases back <;> simp [cut?, byteSize]
  | cons symbol front ih =>
      have positive := symbol.utf8Size_pos
      rw [List.cons_append, cut?, byteSize, if_neg (by omega), if_pos (by omega),
        Nat.add_sub_cancel_left, ih, Option.map_some]

/-- **A text is cut at a place exactly when it consists of a text of that size and another one.** -/
theorem cut?_eq_some_iff {place : Nat} {text front back : List Char} :
    cut? place text = some (front, back) ↔ text = front ++ back ∧ byteSize front = place := by
  constructor
  · intro found
    induction text generalizing place front with
    | nil =>
        rw [cut?] at found
        split at found
        case isTrue start =>
          cases found
          exact ⟨rfl, start.symm⟩
        case isFalse => cases found
    | cons symbol rest ih =>
        rw [cut?] at found
        split at found
        case isTrue start =>
          cases found
          exact ⟨rfl, start.symm⟩
        split at found
        case isFalse => cases found
        case isTrue fits =>
          obtain ⟨⟨front', back'⟩, ofRest, same⟩ := Option.map_eq_some_iff.1 found
          cases same
          obtain ⟨rfl, size⟩ := ih ofRest
          exact ⟨rfl, by rw [byteSize, size]; omega⟩
  · rintro ⟨rfl, rfl⟩
    exact cut?_append front back

theorem slice?_append (front inside back : List Char) :
    slice? (front ++ inside ++ back) ⟨byteSize front, byteSize front + byteSize inside⟩ =
      some inside := by
  rw [slice?, ← byteSize_append, cut?_append]
  simp [cut?_append]

theorem splice?_append (front inside back new : List Char) :
    splice? ⟨byteSize front, byteSize front + byteSize inside⟩ new (front ++ inside ++ back) =
      some (front ++ new ++ back) := by
  rw [splice?, ← byteSize_append, cut?_append]
  simp [cut?_append]

/-! ## Cutting out spans -/

/-- Spans that can be cut out of a text: none is empty, all of their ends are between characters,
and none begins before the one in front of it has ended. -/
structure CutOut (text : List Char) (spans : List Span) : Prop where
  notEmpty : ∀ span ∈ spans, span.start < span.stop
  within : ∀ span ∈ spans, span.stop ≤ byteSize text
  begins : ∀ span ∈ spans, (cut? span.start text).isSome = true
  ends : ∀ span ∈ spans, (cut? span.stop text).isSome = true
  ordered : spans.Pairwise fun earlier later => earlier.stop ≤ later.start

section LayingOut

variable {Piece : Type} {charactersOf : Piece → List Char}

/-- A piece begins where all pieces in front of it have ended. -/
theorem pairwise_layOut (offset : Nat) (pieces : List Piece) :
    (layOut charactersOf offset pieces).Pairwise
      fun earlier later => earlier.1.stop ≤ later.1.start := by
  induction pieces generalizing offset with
  | nil => exact .nil
  | cons piece rest ih =>
      exact .cons (fun _ member => Code.le_start_of_mem_layOut member) (ih _)

/-- **Any of the pieces that make up a text have spans that can be cut out of it**, if no piece is
empty. -/
theorem cutOut_of_sublist {pieces : List Piece} {spans : List Span}
    (notEmpty : ∀ piece ∈ pieces, charactersOf piece ≠ [])
    (picked : spans.Sublist ((layOut charactersOf 0 pieces).map Prod.fst)) :
    CutOut (pieces.flatMap charactersOf) spans := by
  have stands : ∀ span ∈ spans, ∃ front piece back, pieces = front ++ piece :: back ∧
      span = ⟨byteSize (front.flatMap charactersOf),
        byteSize (front.flatMap charactersOf) + byteSize (charactersOf piece)⟩ := by
    intro span member
    obtain ⟨⟨_, piece⟩, laidOut, rfl⟩ := List.mem_map.1 (picked.subset member)
    obtain ⟨front, back, cut, same⟩ := Code.mem_layOut_iff.1 laidOut
    exact ⟨front, piece, back, cut, by simpa using same⟩
  refine ⟨?_, ?_, ?_, ?_, ?_⟩
  · intro span member
    obtain ⟨front, piece, back, rfl, rfl⟩ := stands span member
    exact Nat.lt_add_of_pos_right (Code.byteSize_pos (notEmpty piece (by simp)))
  · intro span member
    obtain ⟨front, piece, back, rfl, rfl⟩ := stands span member
    rw [List.flatMap_append, List.flatMap_cons, byteSize_append, byteSize_append]
    dsimp only
    omega
  · intro span member
    obtain ⟨front, piece, back, rfl, rfl⟩ := stands span member
    rw [List.flatMap_append, cut?_append]
    rfl
  · intro span member
    obtain ⟨front, piece, back, rfl, rfl⟩ := stands span member
    rw [List.flatMap_append, List.flatMap_cons, ← byteSize_append, ← List.append_assoc,
      cut?_append]
    rfl
  · exact (List.pairwise_map.2 (pairwise_layOut 0 pieces)).sublist picked

end LayingOut

end Inquiry.Text
