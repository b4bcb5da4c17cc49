import Inquiry.Store.Value
import Mathlib.Algebra.Group.Nat.Defs

/-!
# The order of digits

Texts are compared character by character, from the left.  Of two numbers that are
written with the same number of digits the lesser one has therefore the lesser text
(`compare_scaled`), and where texts go on behind such numbers, what comes later is
looked at only if the numbers are the same (`compare_append`).

Digits behind a point need not be equally many, since they count from the left: a
fraction that is less has the lesser text all the same, though fractions that are
equal may have different ones (`compare_of_scaled_lt`).
-/

set_option autoImplicit false

namespace Inquiry

/-! ## Comparing texts -/

theorem compare_cons (first first' : Char) (rest rest' : List Char) :
    compare (first :: rest) (first' :: rest') =
      (compare first first').then (compare rest rest') := List.compareLex_cons_cons

/-- Behind the same character the rest decides. -/
theorem compare_cons_self (symbol : Char) (rest rest' : List Char) :
    compare (symbol :: rest) (symbol :: rest') = compare rest rest' := by
  rw [compare_cons, Std.compare_self, Ordering.then]

/-- What comes behind texts of one length decides if these are the same. -/
theorem compare_append {front front' : List Char} (sameLength : front.length = front'.length)
    (back back' : List Char) :
    compare (front ++ back) (front' ++ back') =
      (compare front front').then (compare back back') := by
  induction front generalizing front' with
  | nil =>
      obtain rfl := List.eq_nil_of_length_eq_zero sameLength.symm
      rfl
  | cons first rest ih =>
      obtain ⟨first', rest', rfl⟩ := List.exists_cons_of_length_eq_add_one sameLength.symm
      rw [List.cons_append, List.cons_append, compare_cons, compare_cons,
        ih (Nat.succ.inj sameLength), Ordering.then_assoc]

/-- Strings are compared as the texts they are. -/
theorem compare_toList (first second : String) :
    compare first second = compare first.toList second.toList := by
  have asLists (left right : List Char) : compare left right = compareOfLessAndEq left right := by
    induction left generalizing right with
    | nil => cases right <;> rfl
    | cons symbol rest ih =>
        cases right with
        | nil => rfl
        | cons symbol' rest' =>
            have ofSymbols : compare symbol symbol' = compareOfLessAndEq symbol symbol' := rfl
            rw [compare_cons, ih, ofSymbols]
            unfold compareOfLessAndEq
            simp only [List.cons_lt_cons_iff, List.cons.injEq]
            by_cases isLess : symbol < symbol'
            · simp [isLess]
            · by_cases same : symbol = symbol'
              · simp [same]
              · simp [isLess, same]
  have ofStrings : compare first second = compareOfLessAndEq first second := rfl
  rw [ofStrings, asLists]
  simp only [compareOfLessAndEq, String.lt_iff, String.toList_inj]

/-! ## Numbers and their digits -/

namespace Reading

/-- The number that a digit stands for. -/
def digitValue (digit : Char) : Nat := digit.toNat - 48

/-- Digits, and how many they are. -/
def AreDigits (count : Nat) (text : List Char) : Prop :=
  text.length = count ∧ ∀ symbol ∈ text, symbol.isDigit = true

theorem digitValue_lt {digit : Char} (isDigit : digit.isDigit = true) : digitValue digit < 10 := by
  have atMost := (toNat_of_isDigit isDigit).2
  rw [digitValue]
  omega

/-- Digits are compared by the numbers they stand for. -/
theorem compare_digits {digit other : Char} (isDigit : digit.isDigit = true)
    (isOther : other.isDigit = true) :
    compare digit other = compare (digitValue digit) (digitValue other) := by
  have atLeast := (toNat_of_isDigit isDigit).1
  have otherAtLeast := (toNat_of_isDigit isOther).1
  have isLess : digit < other ↔ digitValue digit < digitValue other := by
    have asCodes : digit < other ↔ digit.toNat < other.toNat := Iff.rfl
    rw [asCodes, digitValue, digitValue]
    omega
  have same : digit = other ↔ digitValue digit = digitValue other := by
    rw [← Char.toNat_inj, digitValue, digitValue]
    omega
  have ofDigits : compare digit other = compareOfLessAndEq digit other := rfl
  have ofValues : compare (digitValue digit) (digitValue other) =
      compareOfLessAndEq (digitValue digit) (digitValue other) := rfl
  rw [ofDigits, ofValues]
  simp only [compareOfLessAndEq, isLess, same]

theorem digitsValue_cons (digit : Char) (rest : List Char) :
    digitsValue (digit :: rest) = digitValue digit * 10 ^ rest.length + digitsValue rest := by
  have shifted (value : Nat) (digits : List Char) :
      digits.foldl (fun value digit => 10 * value + (digit.toNat - 48)) value =
        value * 10 ^ digits.length + digitsValue digits := by
    induction digits generalizing value with
    | nil => simp [digitsValue]
    | cons digit rest ih =>
        rw [digitsValue, List.foldl_cons, List.foldl_cons, ih, ih, List.length_cons, Nat.pow_succ]
        grind
  rw [digitsValue, List.foldl_cons, shifted]
  simp [digitValue]

/-- The value of digits in units of the last of a number of places: digits that are missing count
as zero, and those that are too many do not count. -/
def scaled (places : Nat) (digits : List Char) : Nat :=
  digitsValue (digits.take places) * 10 ^ (places - (digits.take places).length)

theorem scaled_nil (places : Nat) : scaled places [] = 0 := by
  simp [scaled, digitsValue]

theorem scaled_cons (places : Nat) (digit : Char) (rest : List Char) :
    scaled (places + 1) (digit :: rest) = digitValue digit * 10 ^ places + scaled places rest := by
  have atMost : (rest.take places).length ≤ places := List.length_take_le ..
  rw [scaled, scaled, List.take_succ_cons, digitsValue_cons, List.length_cons,
    Nat.add_sub_add_right, Nat.add_mul, Nat.mul_assoc, ← Nat.pow_add, Nat.add_sub_cancel' atMost]

/-- As many digits as there are places have their value. -/
theorem scaled_length {places : Nat} {digits : List Char} (whole : digits.length = places) :
    scaled places digits = digitsValue digits := by
  rw [scaled, List.take_of_length_le (Nat.le_of_eq whole), whole, Nat.sub_self, Nat.pow_zero,
    Nat.mul_one]

theorem scaled_lt (places : Nat) {digits : List Char}
    (areDigits : ∀ symbol ∈ digits, symbol.isDigit = true) :
    scaled places digits < 10 ^ places := by
  induction places generalizing digits with
  | zero => simp [scaled, digitsValue]
  | succ places ih =>
      cases digits with
      | nil =>
          rw [scaled_nil]
          exact Nat.pow_pos (by decide)
      | cons digit rest =>
          obtain ⟨isDigit, restDigits⟩ := List.forall_mem_cons.1 areDigits
          have ofRest := ih restDigits
          have ofDigit := digitValue_lt isDigit
          rw [scaled_cons, Nat.pow_succ]
          have atMost := Nat.mul_le_mul_right (10 ^ places) (Nat.le_of_lt_succ ofDigit)
          omega

/-- A greater place decides before all lesser ones. -/
theorem compare_weighted {weight low low' : Nat} (isLow : low < weight) (isLow' : low' < weight)
    (high high' : Nat) :
    compare (high * weight + low) (high' * weight + low') =
      (compare high high').then (compare low low') := by
  have above {left right : Nat} (isLess : left < right) :
      left * weight + weight ≤ right * weight := by
    rw [← Nat.succ_mul]
    exact Nat.mul_le_mul_right weight isLess
  rcases Nat.lt_trichotomy high high' with isLess | rfl | isLess
  · have gap := above isLess
    rw [Nat.compare_eq_lt.2 isLess, Ordering.lt_then, Nat.compare_eq_lt]
    omega
  · rw [Std.compare_self, Ordering.eq_then]
    rcases Nat.lt_trichotomy low low' with isLess | rfl | isLess
    · rw [Nat.compare_eq_lt.2 isLess, Nat.compare_eq_lt]
      omega
    · rw [Std.compare_self, Std.compare_self]
    · rw [Nat.compare_eq_gt.2 isLess, Nat.compare_eq_gt]
      omega
  · have gap := above isLess
    rw [Nat.compare_eq_gt.2 isLess, Ordering.gt_then, Nat.compare_eq_gt]
    omega

/-- **Numbers of equally many digits are compared as their texts are.** -/
theorem compare_scaled {places : Nat} {digits digits' : List Char}
    (areDigits : ∀ symbol ∈ digits, symbol.isDigit = true)
    (areDigits' : ∀ symbol ∈ digits', symbol.isDigit = true)
    (sameLength : digits.length = digits'.length) (atMost : digits.length ≤ places) :
    compare digits digits' = compare (scaled places digits) (scaled places digits') := by
  induction places generalizing digits digits' with
  | zero =>
      obtain rfl := List.eq_nil_of_length_eq_zero (Nat.le_zero.1 atMost)
      obtain rfl := List.eq_nil_of_length_eq_zero sameLength.symm
      rfl
  | succ places ih =>
      cases digits with
      | nil =>
          obtain rfl := List.eq_nil_of_length_eq_zero sameLength.symm
          rw [Std.compare_self, Std.compare_self]
      | cons digit rest =>
          obtain ⟨digit', rest', rfl⟩ := List.exists_cons_of_length_eq_add_one sameLength.symm
          obtain ⟨isDigit, restDigits⟩ := List.forall_mem_cons.1 areDigits
          obtain ⟨isDigit', restDigits'⟩ := List.forall_mem_cons.1 areDigits'
          rw [compare_cons, compare_digits isDigit isDigit',
            ih restDigits restDigits' (Nat.succ.inj sameLength) (Nat.le_of_succ_le_succ atMost),
            scaled_cons, scaled_cons,
            compare_weighted (scaled_lt places restDigits) (scaled_lt places restDigits')]

/-- **Digits of a lesser fraction have a lesser text**, however many there are. -/
theorem compare_of_scaled_lt {places : Nat} {digits digits' : List Char}
    (areDigits : ∀ symbol ∈ digits, symbol.isDigit = true)
    (areDigits' : ∀ symbol ∈ digits', symbol.isDigit = true)
    (isLess : scaled places digits < scaled places digits') : compare digits digits' = .lt := by
  induction places generalizing digits digits' with
  | zero => simp [scaled, digitsValue] at isLess
  | succ places ih =>
      cases digits' with
      | nil =>
          rw [scaled_nil] at isLess
          exact absurd isLess (Nat.not_lt_zero _)
      | cons digit' rest' =>
          cases digits with
          | nil => rfl
          | cons digit rest =>
              obtain ⟨isDigit, restDigits⟩ := List.forall_mem_cons.1 areDigits
              obtain ⟨isDigit', restDigits'⟩ := List.forall_mem_cons.1 areDigits'
              rw [scaled_cons, scaled_cons, ← Nat.compare_eq_lt, compare_weighted
                (scaled_lt places restDigits) (scaled_lt places restDigits'),
                Ordering.then_eq_lt] at isLess
              rw [compare_cons, compare_digits isDigit isDigit', Ordering.then_eq_lt]
              exact isLess.imp_right fun ⟨same, restLess⟩ =>
                ⟨same, ih restDigits restDigits' (Nat.compare_eq_lt.1 restLess)⟩

end Reading

end Inquiry
