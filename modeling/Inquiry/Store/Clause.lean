import Inquiry.Plan.Operation
import Inquiry.Store.Value

/-!
# Clauses that select rows

A clause is what is left of a condition once its field is a known column and
its values are values of the store.  It has a text, in which every value is a
question mark, and the values that are bound to these marks in order; and it
has a meaning, which may be unknown when null is involved.  A row is selected
where a clause is true, not where it is unknown.
-/

set_option autoImplicit false

namespace Inquiry

/-! ## Truth values -/

/-- A truth value; none stands for unknown. -/
abbrev Truth := Option Bool

namespace Truth

/-- The opposite of a truth value; unknown stays unknown. -/
def not (truth : Truth) : Truth := truth.map (!·)

/-- Whether one of two truth values holds. -/
def or : Truth → Truth → Truth
  | some true, _ => some true
  | _, some true => some true
  | some false, some false => some false
  | _, _ => none

/-- Whether one of several truth values holds. -/
def any (truths : List Truth) : Truth := truths.foldr or (some false)

end Truth

/-! ## Clauses -/

/-- A condition on the columns of a row. -/
inductive Clause where
  /-- A column compares with a value. -/
  | compare (column : String) (comparison : Comparison) (value : SqlValue)
  /-- A column is null, or is not. -/
  | isNull (column : String) (negated : Bool)
  /-- A column is among values, or is not. -/
  | isAmong (column : String) (negated : Bool) (values : List SqlValue)
deriving DecidableEq

/-- A name between double quotes, quotes inside it being doubled. -/
def quotedName (name : String) : String :=
  String.ofList ('"' :: name.toList.flatMap (fun symbol =>
    if symbol = '"' then ['"', '"'] else [symbol]) ++ ['"'])

namespace Clause

/-- The column that a clause is about. -/
def column : Clause → String
  | .compare column _ _ => column
  | .isNull column _ => column
  | .isAmong column _ _ => column

/-- The sign of membership. -/
def membershipSign (negated : Bool) : String :=
  (if negated then Comparison.notIn else Comparison.isIn).sign

/-- The text of a clause up to its values. -/
def front : Clause → String
  | .compare column comparison _ => quotedName column ++ " " ++ comparison.sign ++ " "
  | .isNull column negated => quotedName column ++ (if negated then " IS NOT NULL" else " IS NULL")
  | .isAmong column negated _ => quotedName column ++ " " ++ membershipSign negated ++ " "

/-- The values that a clause binds, in order. -/
def values : Clause → List SqlValue
  | .compare _ _ value => [value]
  | .isNull _ _ => []
  | .isAmong _ _ values => values

/-- The marks that stand for the values of a clause. -/
def marks : Clause → String
  | .compare _ _ _ => "?"
  | .isNull _ _ => ""
  | .isAmong _ _ values => "(" ++ commaList (values.map fun _ => "?") ++ ")"

/-- The text of a clause. -/
def text (clause : Clause) : String := clause.front ++ clause.marks

/-- Whether the text of a clause cannot be read: membership is in a list, not in one value. -/
def isMalformed : Clause → Bool
  | .compare _ comparison _ => comparison.isMembership
  | _ => false

end Clause

/-! ## Meaning -/

/-- A value of a row, and the type of its column if it comes from one. -/
structure Operand where
  value : SqlValue
  type : Option ColumnType
deriving DecidableEq

/-- A character in lower case, if it is a capital from A to Z. -/
def foldCase (symbol : Char) : Char := symbol.toLower

/-- Whether a text matches a pattern, in which a percent sign stands for any characters and an
underscore for one; case does not count. -/
def likes : (pattern text : List Char) → Bool
  | [], text => text.isEmpty
  | '%' :: pattern, text => skips pattern text
  | '_' :: pattern, _ :: text => likes pattern text
  | symbol :: pattern, other :: text => foldCase symbol = foldCase other && likes pattern text
  | _ :: _, [] => false
where
  /-- Whether the rest of a text matches after some of it is skipped. -/
  skips (pattern : List Char) : List Char → Bool
    | [] => likes pattern []
    | symbol :: text => likes pattern (symbol :: text) || skips pattern text

/-- The text by which a value is matched with a pattern. -/
def SqlValue.pattern? (value : SqlValue) : Option (List Char) :=
  match value.kept .text with
  | .text pattern => some pattern.toList
  | _ => none

/-- Whether a comparison holds between an operand and a value. -/
def Comparison.truth (comparison : Comparison) (operand : Operand) (value : SqlValue) : Truth :=
  let order := SqlValue.order? operand.value (value.compared operand.type)
  match comparison with
  | .equal => order.map (· == .eq)
  | .notEqual => order.map (· != .eq)
  | .less => order.map (· == .lt)
  | .greater => order.map (· == .gt)
  | .atMost => order.map (· != .gt)
  | .atLeast => order.map (· != .lt)
  | .like => do return likes (← value.pattern?) (← operand.value.pattern?)
  | .isIn => none
  | .notIn => none

/-- Whether an operand equals one of several values. -/
def Operand.isAmong (operand : Operand) (values : List SqlValue) : Truth :=
  Truth.any (values.map (Comparison.equal.truth operand))

/-- Whether a clause holds in a row, given by the operand that each column name stands for. -/
def Clause.truth (row : String → Operand) : Clause → Truth
  | .compare column comparison value => comparison.truth (row column) value
  | .isNull column negated => some (((row column).value = .null) != negated)
  | .isAmong column negated values =>
      let among := (row column).isAmong values
      if negated then among.not else among

/-- Whether a row is selected by a clause: the clause is true in it. -/
def Clause.selects (clause : Clause) (row : String → Operand) : Bool :=
  clause.truth row = some true

end Inquiry
