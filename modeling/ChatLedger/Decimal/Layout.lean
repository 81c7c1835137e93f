import ChatLedger.Decimal.Shortest

/-!
# Number texts

How a number is written once its digits are chosen. A `Layout` holds the decisions of one text
form:

1. `Layout.plain` is the form of error texts: never an exponent, no point on whole numbers;
2. `Layout.wire` is the form of documents: an exponent with its sign below `0.00001` and from
   `10 ^ 16` on, a point on every other number, and `null` for what is not a number.
-/

namespace ChatLedger.Decimal

/-- The decisions of a text form of numbers. -/
structure Layout where
  /-- Numbers whose leading digit stands at `10 ^ e`, with `e` between these bounds, are written
  without an exponent; none stands for all numbers. -/
  positional : Option (Int × Int)
  /-- Whole numbers end in `.0`. -/
  wholePoint : Bool
  tie : Tie
  notANumber : String
  infinity : String
  negativeInfinity : String

/-- The form of error texts. -/
def Layout.plain : Layout where
  positional := none
  wholePoint := false
  tie := .up
  notANumber := "NaN"
  infinity := "inf"
  negativeInfinity := "-inf"

/-- The form of documents. -/
def Layout.wire : Layout where
  positional := some (-5, 15)
  wholePoint := true
  tie := .toEven
  notANumber := "null"
  infinity := "null"
  negativeInfinity := "null"

/-- The decimal digits of a natural number. -/
def digitChars (n : Nat) : List Char := Nat.toDigits 10 n

/-- The digits with the point set `places` digits before their end, and at least one digit before
the point. -/
def setPoint (digits : List Char) (places : Nat) : List Char :=
  let padded := List.replicate (places + 1 - digits.length) '0' ++ digits
  padded.take (padded.length - places) ++ '.' :: padded.drop (padded.length - places)

/-- The decimal without an exponent. -/
def Scaled.positional (d : Scaled) (wholePoint : Bool) : List Char :=
  if 0 ≤ d.exponent then
    digitChars d.digits ++ List.replicate d.exponent.toNat '0' ++
      (if wholePoint then ['.', '0'] else [])
  else setPoint (digitChars d.digits) (-d.exponent).toNat

/-- The decimal as one digit, the others behind a point, and an exponent with its sign. -/
def Scaled.scientific (d : Scaled) : List Char :=
  let digits := digitChars d.digits
  let exponent := d.exponent + (digits.length : Int) - 1
  let mantissa :=
    match digits with
    | first :: second :: rest => first :: '.' :: second :: rest
    | _ => digits
  mantissa ++ 'e' :: (if exponent < 0 then '-' else '+') :: digitChars exponent.natAbs

/-- The digits of a positive decimal in the given form. -/
def Layout.place (layout : Layout) (d : Scaled) : List Char :=
  match layout.positional with
  | none => d.positional layout.wholePoint
  | some (low, high) =>
    let leading := d.exponent + (digitCount d.digits : Int) - 1
    if low ≤ leading ∧ leading ≤ high then d.positional layout.wholePoint else d.scientific

/-- The text of a number in the given form. -/
def Layout.render (layout : Layout) (x : Float) : String :=
  let bits := x.toBits
  let negative := bits >>> 63 == 1
  if x.isNaN then layout.notANumber
  else if x.isInf then if negative then layout.negativeInfinity else layout.infinity
  else
    let value := Dyadic.ofBits bits
    let decimal := if value.significand = 0 then ⟨0, 0⟩ else value.shortest layout.tie
    let sign := if negative then ['-'] else []
    String.ofList (sign ++ layout.place decimal)

/-! ## A fixed number of places -/

/-- The quotient rounded to the nearest whole number, a half to the even neighbour. -/
def roundedQuotient (numerator denominator : Nat) : Nat :=
  let quotient := numerator / denominator
  match compare (2 * (numerator % denominator)) denominator with
  | .lt => quotient
  | .gt => quotient + 1
  | .eq => if quotient % 2 = 0 then quotient else quotient + 1

/-- The text of a number with exactly `places` digits behind the point, the exact value rounded. -/
def fixedPlaces (places : Nat) (x : Float) : String :=
  let bits := x.toBits
  let negative := bits >>> 63 == 1
  if x.isNaN then Layout.plain.notANumber
  else if x.isInf then if negative then Layout.plain.negativeInfinity else Layout.plain.infinity
  else
    let value := Dyadic.ofBits bits
    let (up, down) := powerOfTwo value.exponent
    let units := roundedQuotient (value.significand * up * Nat.pow 10 places) down
    let sign := if negative then ['-'] else []
    String.ofList (sign ++
      if places = 0 then digitChars units else setPoint (digitChars units) places)

end ChatLedger.Decimal
