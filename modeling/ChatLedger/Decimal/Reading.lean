import ChatLedger.Bounds

/-!
# Reading decimals

1. `toFloat` rounds a decimal to the nearest binary64 value. Numbers far outside the range are
   decided by their size alone, so that no huge power is ever formed.
2. `parseSigned` reads a whole number within bounds, with the four ways in which that can fail.
3. `parseFloat?` reads a decimal with an optional sign, point and exponent, or the words for
   infinity and for what is not a number.
-/

namespace ChatLedger.Decimal

/-- `digits * 10 ^ exponent`, rounded to the nearest number. -/
def toFloat (negative : Bool) (digits : Nat) (exponent : Int) : Float :=
  let size := exponent + (Nat.toDigits 10 digits).length
  let magnitude : Float :=
    if digits = 0 then 0.0
    else if 400 < size then Float.ofBits 0x7FF0000000000000
    else if size < -400 then 0.0
    else Float.ofScientific digits (exponent < 0) exponent.natAbs
  if negative then -magnitude else magnitude

/-- The value of a character as a decimal digit. -/
def digitValue? (c : Char) : Option Nat :=
  if '0' ≤ c ∧ c ≤ '9' then some (c.toNat - '0'.toNat) else none

/-- The value of a run of decimal digits, read on from `initial`. -/
def digitsValue (initial : Nat) (cs : List Char) : Nat :=
  cs.foldl (fun n c => 10 * n + (c.toNat - '0'.toNat)) initial

/-- The leading decimal digits and what follows them. -/
def spanDigits (cs : List Char) : List Char × List Char := cs.span Char.isDigit

/-! ## Whole numbers -/

/-- Why a text is no whole number of a type. -/
inductive IntegerFault where
  | empty
  | invalidDigit
  | tooLarge
  | tooSmall
  deriving Repr, DecidableEq

/-- The text of the fault. -/
def IntegerFault.message : IntegerFault → String
  | .empty => "cannot parse integer from empty string"
  | .invalidDigit => "invalid digit found in string"
  | .tooLarge => "number too large to fit in target type"
  | .tooSmall => "number too small to fit in target type"

/-- Reads digits until one is invalid or the value passes the limit, whichever comes first. -/
def readDigits (limit : Nat) (overflow : IntegerFault) : Nat → List Char → Except IntegerFault Nat
  | value, [] => .ok value
  | value, c :: rest =>
    match digitValue? c with
    | none => .error .invalidDigit
    | some d =>
      if limit < 10 * value + d then .error overflow
      else readDigits limit overflow (10 * value + d) rest

/-- A whole number from `low` (at most zero) to `high`, with an optional sign. A minus sign is
refused when there are no negative numbers. -/
def parseSigned (low high : Int) (text : String) : Except IntegerFault Int :=
  match text.toList with
  | [] => .error .empty
  | ['+'] | ['-'] => .error .invalidDigit
  | '+' :: rest => (readDigits high.toNat .tooLarge 0 rest).map fun n => (n : Int)
  | '-' :: rest =>
    if low = 0 then .error .invalidDigit
    else (readDigits (-low).toNat .tooSmall 0 rest).map fun n => -(n : Int)
  | cs => (readDigits high.toNat .tooLarge 0 cs).map fun n => (n : Int)

/-! ## Decimals -/

/-- The exponent part of a decimal: nothing, or a mark, an optional sign and digits. -/
def parseExponent? : List Char → Option Int
  | [] => some 0
  | c :: rest =>
    if c = 'e' ∨ c = 'E' then
      let (negative, digits) :=
        match rest with
        | '-' :: digits => (true, digits)
        | '+' :: digits => (false, digits)
        | digits => (false, digits)
      if digits ≠ [] ∧ digits.all Char.isDigit then
        let value : Int := digitsValue 0 digits
        some (if negative then -value else value)
      else none
    else none

/-- A number as digits with an optional point and exponent, or one of the words. -/
def parseUnsigned? (negative : Bool) (cs : List Char) : Option Float :=
  let word := String.ofList (cs.map Char.toLower)
  if word = "inf" ∨ word = "infinity" then
    some (Float.ofBits (if negative then 0xFFF0000000000000 else 0x7FF0000000000000))
  else if word = "nan" then some (Float.ofBits 0x7FF8000000000000)
  else
    let (whole, rest) := spanDigits cs
    let (fraction, rest) :=
      match rest with
      | '.' :: rest => spanDigits rest
      | rest => ([], rest)
    if whole = [] ∧ fraction = [] then none
    else (parseExponent? rest).map fun exponent =>
      toFloat negative (digitsValue 0 (whole ++ fraction)) (exponent - fraction.length)

/-- A number with an optional sign. -/
def parseFloat? (text : String) : Option Float :=
  match text.toList with
  | '-' :: cs => parseUnsigned? true cs
  | '+' :: cs => parseUnsigned? false cs
  | cs => parseUnsigned? false cs

end ChatLedger.Decimal
