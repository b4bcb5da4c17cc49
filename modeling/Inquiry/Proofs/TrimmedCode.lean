import Inquiry.Check.Basic
import Inquiry.Proofs.Rewriting
import Inquiry.Proofs.Trimming

/-!
# References of trimmed code

Checking scans code without the blanks around it; correction scans it as it is
given, and so does execution after a complaint.  They must see the same
references, or what is checked is not what is run.

References can be read off the parts of code, when the sizes of the parts are
added up (`referencesFrom`).  The parts of code are those of the trimmed code
between blanks (`exists_parts_around`), and blanks are no references, so they
only move those between them, by the size of the blanks in front
(`scan_eq_map_shifted`).  What is wrong with tables does not depend on where
their references stand (`tables_eq_of_scan`), so the check of the tables has the
same result on both codes (`scan_trim`).
-/

set_option autoImplicit false

namespace Inquiry.Code

open Inquiry.Text

/-- The reference as it stands behind code of the given size. -/
def Reference.shifted (offset : Nat) (reference : Reference) : Reference :=
  { reference with
    span := ⟨offset + reference.span.start, offset + reference.span.stop⟩ }

/-! ## References of parts -/

/-- The references that parts are, from a place on. -/
def referencesFrom (place : Nat) : List Part → List Reference
  | [] => []
  | .kept characters :: rest => referencesFrom (place + byteSize characters) rest
  | .table mention :: rest =>
      let stop := place + byteSize mention.characters
      ⟨⟨place, stop⟩, mention⟩ :: referencesFrom stop rest

/-- The references among pieces in their places are those of the parts. -/
theorem referencesOf_of_placed {place : Nat} {pieces : List Piece} (placed : Placed place pieces) :
    referencesOf pieces = referencesFrom place (pieces.map Piece.part) := by
  induction pieces generalizing place with
  | nil => rfl
  | cons piece rest ih =>
      have ofRest := ih placed.2
      cases piece with
      | kept characters => exact ofRest
      | reference found =>
          have ofSpan : found.span = _ := placed.1 found rfl
          have whole : found = ⟨_, found.mention⟩ := congrArg (Reference.mk · found.mention) ofSpan
          rw [referencesOf_reference, ofRest, whole]
          rfl

/-- The references of code are those of its parts. -/
theorem scan_eq_referencesFrom (catalog : Catalog) (code : List Char) :
    scan catalog code = referencesFrom 0 (parts catalog code) := by
  rw [← map_part_pieces]
  exact referencesOf_of_placed (placed_pieces catalog code)

theorem referencesFrom_append (place : Nat) (front back : List Part) :
    referencesFrom place (front ++ back) =
      referencesFrom place front ++
        referencesFrom (place + byteSize (front.flatMap Part.characters)) back := by
  induction front generalizing place with
  | nil => rfl
  | cons part rest ih =>
      cases part <;>
        simp [referencesFrom, ih, Part.characters, Nat.add_assoc]

/-- References further behind are the same, shifted. -/
theorem referencesFrom_add (offset place : Nat) (parts : List Part) :
    referencesFrom (offset + place) parts =
      (referencesFrom place parts).map (·.shifted offset) := by
  induction parts generalizing place with
  | nil => rfl
  | cons part rest ih =>
      have ofRest := ih (place + byteSize part.characters)
      rw [← Nat.add_assoc] at ofRest
      cases part with
      | kept characters => exact ofRest
      | table mention =>
          rw [referencesFrom, referencesFrom, List.map_cons, Reference.shifted, ← Nat.add_assoc]
          exact congrArg (List.cons _) ofRest

theorem referencesFrom_map_kept (place : Nat) (text : List Char) :
    referencesFrom place (text.map fun symbol => .kept [symbol]) = [] := by
  induction text generalizing place with
  | nil => rfl
  | cons symbol rest ih => exact ih _

/-! ## Trimmed code -/

/-- The references of code are those of the trimmed code, behind the blanks in front. -/
theorem scan_eq_map_shifted (catalog : Catalog) (code : List Char) :
    scan catalog code =
      (scan catalog (trim code)).map (·.shifted (byteSize (code.takeWhile isBlank))) := by
  obtain ⟨back, whole⟩ := exists_parts_around catalog code
  have ofFront : ((code.takeWhile isBlank).map fun symbol => Part.kept [symbol]).flatMap
      Part.characters = code.takeWhile isBlank := by
    simp [List.flatMap_map, Part.characters]
  rw [scan_eq_referencesFrom, scan_eq_referencesFrom, whole, referencesFrom_append,
    referencesFrom_append, referencesFrom_map_kept, referencesFrom_map_kept, List.nil_append,
    List.append_nil, ofFront, Nat.add_comm, referencesFrom_add]

/-- What is wrong with the tables of code does not depend on where its references stand. -/
theorem tables_eq_of_scan {catalog : Catalog} {code other : List Char} {offset : Nat}
    (same : scan catalog code = (scan catalog other).map (·.shifted offset)) :
    Check.tables catalog code = Check.tables catalog other := by
  rw [Check.tables, Check.tables, same]
  simp only [List.isEmpty_map, List.find?_map, Function.comp_def, Reference.shifted,
    Reference.isEmpty, Reference.entity?, Reference.identifier]
  cases (scan catalog other).find? fun reference => reference.mention.isEmpty with
  | some reference => rfl
  | none =>
      cases (scan catalog other).find? fun reference =>
        (catalog.resolve? reference.mention.identifier).isNone <;> rfl

/-- **The references of code are those of the trimmed code**: each has the same mention and stands
behind the blanks that are trimmed in front.  So what is checked without the blanks is what is run
with them. -/
theorem scan_trim (catalog : Catalog) (code : List Char) :
    scan catalog code =
        (scan catalog (trim code)).map (·.shifted (byteSize (code.takeWhile isBlank))) ∧
      Check.tables catalog (trim code) = Check.tables catalog code := by
  have same := scan_eq_map_shifted catalog code
  exact ⟨same, (tables_eq_of_scan same).symm⟩

end Inquiry.Code
