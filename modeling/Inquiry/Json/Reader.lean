import Inquiry.Json.Basic
import Inquiry.Number.Reading

/-!
# Reading JSON texts

Reading goes in two steps.  First a text is read into a written value, which
keeps the members of an object as they stand, repeated names included, and
lets a number that is too large or a string with half a surrogate pair stand
as a fault.  Then a written value is settled into a value: faults are errors,
more than the allowed nesting is an error, and the last member of a name wins.
The two steps are apart because a reader of known fields must see a name that
is given twice, and must not mind a fault inside a field that it ignores.
-/

set_option autoImplicit false

namespace Inquiry

/-- A value as it is written. -/
inductive Written where
  | null
  | bool (value : Bool)
  | number (value : Option Number)
  | string (value : Option String)
  | array (items : List Written)
  | object (members : List (Option String × Written))

namespace Written

/-! ## Numbers -/

/-- The digits of a number that fit its significand: their value, how many they are, and whether
digits are left over. -/
def fitDigits (value count : Nat) : List Char → Nat × Nat × List Char
  | [] => (value, count, [])
  | digit :: rest =>
      let next := 10 * value + (digit.toNat - 48)
      if Word.limit ≤ next then (value, count, digit :: rest)
      else fitDigits next (count + 1) rest

/-- The doubles nearest to the powers of ten up to the largest that is finite. -/
def powerOfTen (exponent : Nat) : Double := Double.ofNat (Nat.pow 10 exponent)

/-- The largest power of ten that is a finite double. -/
def greatestPower : Nat := 308

/-- A significand divided by powers of ten, in steps of at most the largest power. -/
def divideByTens (number : Double) : (steps exponent : Nat) → Double
  | 0, _ => number
  | steps + 1, exponent =>
      if exponent ≤ greatestPower then number.div (powerOfTen exponent)
      else if number.magnitude = 0 then number
      else divideByTens (number.div (powerOfTen greatestPower)) steps (exponent - greatestPower)

/-- The double of a significand times ten to an exponent, unless it is infinite.

The significand and the power of ten are rounded on their own, and their product or quotient is
rounded again. -/
def scaled? (significand : Nat) (exponent : Int) : Option Double :=
  let number := Double.ofNat significand
  match exponent with
  | .ofNat places =>
      if greatestPower < places then (if number.magnitude = 0 then some number else none)
      else
        let product := number.mul (powerOfTen places)
        if product.isFinite then some product else none
  | .negSucc places => some (divideByTens number 4 (places + 1))

/-- The greatest exponent that is counted; a larger one is infinite, or zero. -/
def exponentLimit : Nat := 0x80000000

/-- The double of a significand, a base exponent and a written exponent. -/
def withExponent? (significand : Nat) (base : Int) (written : Int) : Option Double :=
  if exponentLimit ≤ written.natAbs then
    if significand = 0 || written < 0 then some Double.zero else none
  else scaled? significand (base + written)

/-- A number from its sign, the digits before the point, the digits after it, and the exponent.

Digits that do not fit the significand are dropped; before the point each counts in the exponent. -/
def numberOf? (negative : Bool) (front : List Char) (back : Option (List Char))
    (exponent : Option Int) : Option Number :=
  let (whole, _, surplus) := fitDigits 0 0 front
  if back.isNone && exponent.isNone && surplus.isEmpty then
    if !negative then some (.integer whole)
    else if whole = 0 || Word.signedLimit < whole then
      some (.double (Double.ofFraction true whole 1))
    else some (.integer (-(whole : Int)))
  else
    let (significand, places, _) := fitDigits whole 0 (back.getD [])
    let base := (surplus.length : Int) - places
    (withExponent? significand base (exponent.getD 0)).map fun number =>
      .double (Double.ofMagnitude negative number.magnitude)

/-- Digits at the start of a text, and the rest. -/
def takeDigits (text : List Char) : List Char × List Char :=
  (text.takeWhile Char.isDigit, text.dropWhile Char.isDigit)

/-- The fraction of a number: a point and one or more digits, or nothing. -/
def readFraction (text : List Char) : Option (Option (List Char) × List Char) :=
  match text with
  | '.' :: rest =>
      let (digits, rest) := takeDigits rest
      if digits.isEmpty then none else some (some digits, rest)
  | _ => some (none, text)

/-- The digits of an exponent after its sign. -/
def readExponentDigits (negative : Bool) (text : List Char) : Option (Option Int × List Char) :=
  let (digits, rest) := takeDigits text
  if digits.isEmpty then none
  else
    let value : Int := Reading.digitsValue digits
    some (some (if negative then -value else value), rest)

/-- The exponent of a number, or nothing. -/
def readExponent (text : List Char) : Option (Option Int × List Char) :=
  let signed (rest : List Char) : Option (Option Int × List Char) :=
    match rest with
    | '+' :: digits => readExponentDigits false digits
    | '-' :: digits => readExponentDigits true digits
    | _ => readExponentDigits false rest
  match text with
  | 'e' :: rest => signed rest
  | 'E' :: rest => signed rest
  | _ => some (none, text)

/-- A number at the start of a text: no leading zeros, and digits on both sides of a point. -/
def readNumber (text : List Char) : Option (Option Number × List Char) := do
  let (negative, text) := match text with
    | '-' :: rest => (true, rest)
    | _ => (false, text)
  let (front, rest) := takeDigits text
  if front.isEmpty || (front.head? = some '0' && 1 < front.length) then none
  else
    let (back, rest) ← readFraction rest
    let (exponent, rest) ← readExponent rest
    some (numberOf? negative front back exponent, rest)

/-! ## Strings -/

/-- The value of a hexadecimal digit. -/
def hexValue? (symbol : Char) : Option Nat :=
  if symbol.isDigit then some (symbol.toNat - 48)
  else if 'a' ≤ symbol && symbol ≤ 'f' then some (symbol.toNat - 87)
  else if 'A' ≤ symbol && symbol ≤ 'F' then some (symbol.toNat - 55)
  else none

/-- The value of four hexadecimal digits at the start of a text. -/
def readHex (text : List Char) : Option (Nat × List Char) :=
  match text with
  | a :: b :: c :: d :: rest => do
      let a ← hexValue? a
      let b ← hexValue? b
      let c ← hexValue? c
      let d ← hexValue? d
      some (4096 * a + 256 * b + 16 * c + d, rest)
  | _ => none

/-- One part of a string: a character, or half of a surrogate pair. -/
inductive StringPart where
  | symbol (value : Char)
  | high (code : Nat)
  | low (code : Nat)

/-- The part of a string that a code unit stands for. -/
def partOf (code : Nat) : StringPart :=
  if 0xd800 ≤ code && code < 0xdc00 then .high code
  else if 0xdc00 ≤ code && code < 0xe000 then .low code
  else .symbol (Char.ofNat code)

/-- The characters of parts; a half without its partner is a fault. -/
def joinParts : List StringPart → Option (List Char)
  | [] => some []
  | .symbol value :: rest => (joinParts rest).map (value :: ·)
  | .high first :: .low second :: rest =>
      (joinParts rest).map
        (Char.ofNat (0x10000 + 1024 * (first - 0xd800) + (second - 0xdc00)) :: ·)
  | .high _ :: _ => none
  | .low _ :: _ => none

/-- The character that a single letter after a backslash stands for. -/
def escaped? : Char → Option Char
  | '"' => some '"'
  | '\\' => some '\\'
  | '/' => some '/'
  | 'b' => some '\x08'
  | 'f' => some '\x0c'
  | 'n' => some '\n'
  | 'r' => some '\r'
  | 't' => some '\t'
  | _ => none

/-- The parts of a string after its opening quote, and the text after its closing one. -/
def readParts : (steps : Nat) → List Char → Option (List StringPart × List Char)
  | 0, _ => none
  | _, [] => none
  | steps + 1, symbol :: rest =>
      if symbol = '"' then some ([], rest)
      else if symbol = '\\' then
        match rest with
        | 'u' :: digits => do
            let (code, rest) ← readHex digits
            let (parts, rest) ← readParts steps rest
            some (partOf code :: parts, rest)
        | letter :: rest => do
            let value ← escaped? letter
            let (parts, rest) ← readParts steps rest
            some (.symbol value :: parts, rest)
        | [] => none
      else if symbol.toNat < 0x20 then none
      else do
        let (parts, rest) ← readParts steps rest
        some (.symbol symbol :: parts, rest)

/-- The content of a string after its opening quote, none for a fault. -/
def readString (text : List Char) : Option (Option String × List Char) :=
  (readParts (text.length + 1) text).map fun (parts, rest) =>
    ((joinParts parts).map String.ofList, rest)

/-! ## Values -/

/-- The blanks between the parts of a JSON text. -/
def isSpace (symbol : Char) : Bool :=
  symbol = ' ' || symbol = '\n' || symbol = '\t' || symbol = '\r'

/-- A text without the blanks at its start. -/
def skipSpace (text : List Char) : List Char := text.dropWhile isSpace

mutual
/-- A value at the start of a text, after blanks, and the text after it. -/
def readValue : (steps : Nat) → List Char → Option (Written × List Char)
  | 0, _ => none
  | steps + 1, text =>
      match skipSpace text with
      | [] => none
      | symbol :: rest =>
          if symbol = '"' then
            (readString rest).map fun (value, rest) => (.string value, rest)
          else if symbol = '[' then
            match skipSpace rest with
            | ']' :: rest => some (.array [], rest)
            | _ => (readItems steps rest).map fun (items, rest) => (.array items, rest)
          else if symbol.toNat = 0x7b then
            match skipSpace rest with
            | [] => none
            | next :: after =>
                if next.toNat = 0x7d then some (.object [], after)
                else (readMembers steps rest).map fun (members, rest) => (.object members, rest)
          else
            match "null".toList.isPrefixOf? (symbol :: rest) with
            | some rest => some (.null, rest)
            | none =>
            match "true".toList.isPrefixOf? (symbol :: rest) with
            | some rest => some (.bool true, rest)
            | none =>
            match "false".toList.isPrefixOf? (symbol :: rest) with
            | some rest => some (.bool false, rest)
            | none => (readNumber (symbol :: rest)).map fun (value, rest) => (.number value, rest)

/-- One or more items up to the closing bracket of an array. -/
def readItems : (steps : Nat) → List Char → Option (List Written × List Char)
  | 0, _ => none
  | steps + 1, text =>
      match readValue steps text with
      | none => none
      | some (item, rest) =>
          match skipSpace rest with
          | ',' :: rest => (readItems steps rest).map fun (items, rest) => (item :: items, rest)
          | ']' :: rest => some ([item], rest)
          | _ => none

/-- One or more members up to the closing brace of an object. -/
def readMembers : (steps : Nat) → List Char → Option (List (Option String × Written) × List Char)
  | 0, _ => none
  | steps + 1, text =>
      match skipSpace text with
      | '"' :: rest =>
          match readString rest with
          | none => none
          | some (name, rest) =>
              match skipSpace rest with
              | ':' :: rest =>
                  match readValue steps rest with
                  | none => none
                  | some (value, rest) =>
                      match skipSpace rest with
                      | [] => none
                      | next :: after =>
                          if next = ',' then
                            (readMembers steps after).map fun (members, rest) =>
                              ((name, value) :: members, rest)
                          else if next.toNat = 0x7d then some ([(name, value)], after)
                          else none
              | _ => none
      | _ => none
end

/-- The written value that a text holds whole, blanks around it apart. -/
def read (text : List Char) : Option Written :=
  match readValue (2 * text.length + 2) text with
  | some (value, rest) => if (skipSpace rest).isEmpty then some value else none
  | none => none

/-! ## Settling -/

mutual
/-- The value of a written value, with at most `depth` levels of arrays and objects. -/
def settle (depth : Nat) : Written → Option Json
  | .null => some .null
  | .bool value => some (.bool value)
  | .number value => value.map .number
  | .string value => value.map .string
  | .array items =>
      if depth = 0 then none else (settleItems (depth - 1) items).map .array
  | .object members =>
      if depth = 0 then none else (settleMembers (depth - 1) members).map Json.ofMembers

/-- The values of the items of an array. -/
def settleItems (depth : Nat) : List Written → Option (List Json)
  | [] => some []
  | item :: rest => do
      let value ← settle depth item
      let values ← settleItems depth rest
      some (value :: values)

/-- The members of an object with their values. -/
def settleMembers (depth : Nat) : List (Option String × Written) → Option (List (String × Json))
  | [] => some []
  | (name, item) :: rest => do
      let name ← name
      let value ← settle depth item
      let values ← settleMembers depth rest
      some ((name, value) :: values)
end

/-- The most levels of arrays and objects inside one another. -/
def greatestDepth : Nat := 127

end Written

/-- The value that a text holds. -/
def Json.read (text : String) : Option Json :=
  (Written.read text.toList).bind (Written.settle Written.greatestDepth)

end Inquiry
