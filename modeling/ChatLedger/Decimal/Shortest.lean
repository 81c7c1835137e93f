/-!
# Shortest decimals

The fewest decimal digits that identify a binary64 value, found by exact arithmetic on its bits:

1. `Dyadic` is a finite value `significand * 2 ^ exponent`. The decimals that round to it fill an
   interval, from halfway to the value below to halfway to the value above; the ends belong to it
   when the significand is even.
2. `Dyadic.shortest` tries grids of one, two, … up to seventeen digits. On each grid only the two
   neighbours of the value can lie in the interval; the first grid with a hit wins, and of two
   hits the nearer.
-/

namespace ChatLedger.Decimal

/-- A finite binary64 value without its sign. -/
structure Dyadic where
  significand : Nat
  exponent : Int
  /-- The value below is half as far away as the value above. -/
  narrowBelow : Bool
  deriving Repr, DecidableEq

/-- The value behind the bits of a finite number. -/
def Dyadic.ofBits (bits : UInt64) : Dyadic :=
  let biased := ((bits >>> 52) &&& 0x7FF).toNat
  let fraction := (bits &&& 0xFFFFFFFFFFFFF).toNat
  if biased = 0 then ⟨fraction, -1074, false⟩
  else ⟨0x10000000000000 + fraction, (biased : Int) - 1075, fraction = 0 && 1 < biased⟩

/-- The number `digits * 10 ^ exponent`. -/
structure Scaled where
  digits : Nat
  exponent : Int
  deriving Repr, DecidableEq

/-- Which of two equally near candidates is taken. -/
inductive Tie where
  | toEven
  | up
  deriving Repr, DecidableEq

/-- `2 ^ e` as a pair of a numerator and a denominator. -/
def powerOfTwo (e : Int) : Nat × Nat := (Nat.pow 2 e.toNat, Nat.pow 2 (-e).toNat)

/-- `10 ^ e` as a pair of a numerator and a denominator. -/
def powerOfTen (e : Int) : Nat × Nat := (Nat.pow 10 e.toNat, Nat.pow 10 (-e).toNat)

/-- How `a * 10 ^ i` compares with `b * 2 ^ j`. -/
def compareScaled (a : Nat) (i : Int) (b : Nat) (j : Int) : Ordering :=
  let (tenUp, tenDown) := powerOfTen i
  let (twoUp, twoDown) := powerOfTwo j
  compare (a * tenUp * twoDown) (b * twoUp * tenDown)

/-- The decimal lies in the interval of the numbers that round to the value. -/
def Dyadic.identifiedBy (x : Dyadic) (d : Scaled) : Bool :=
  let low := 4 * x.significand - (if x.narrowBelow then 1 else 2)
  let high := 4 * x.significand + 2
  let closed := x.significand % 2 = 0
  let atLow := compareScaled d.digits d.exponent low (x.exponent - 2)
  let atHigh := compareScaled d.digits d.exponent high (x.exponent - 2)
  (atLow == .gt || closed && atLow == .eq) && (atHigh == .lt || closed && atHigh == .eq)

/-- The number of decimal digits of a natural number, one for zero. -/
def digitCount (n : Nat) : Nat := if n < 10 then 1 else digitCount (n / 10) + 1
termination_by n
decreasing_by omega

/-- The least `k` with `value < 10 ^ k`. A shift by 400 places makes every positive value larger
than one, so that its whole part has as many digits as the value itself. -/
def Dyadic.magnitude (x : Dyadic) : Int :=
  let (up, down) := powerOfTwo x.exponent
  (digitCount (x.significand * up * Nat.pow 10 400 / down) : Int) - 400

/-- The largest multiple of `10 ^ e` that is not above the value. -/
def Dyadic.floorAt (x : Dyadic) (e : Int) : Nat :=
  let (twoUp, twoDown) := powerOfTwo x.exponent
  let (tenUp, tenDown) := powerOfTen e
  x.significand * twoUp * tenDown / (twoDown * tenUp)

/-- Of the two neighbours on a grid, the one that identifies the value and is nearer. -/
def Dyadic.onGrid (x : Dyadic) (tie : Tie) (e : Int) : Option Scaled :=
  let below : Scaled := ⟨x.floorAt e, e⟩
  let above : Scaled := ⟨x.floorAt e + 1, e⟩
  match x.identifiedBy below, x.identifiedBy above with
  | false, false => none
  | true, false => some below
  | false, true => some above
  | true, true =>
    match compareScaled (below.digits + above.digits) e (2 * x.significand) x.exponent with
    | .gt => some below
    | .lt => some above
    | .eq =>
      match tie with
      | .up => some above
      | .toEven => some (if below.digits % 2 = 0 then below else above)

/-- The same number with no trailing zero among its digits. -/
def Scaled.reduce (d : Scaled) : Scaled :=
  if h : d.digits ≠ 0 ∧ d.digits % 10 = 0 then
    Scaled.reduce ⟨d.digits / 10, d.exponent + 1⟩
  else d
termination_by d.digits
decreasing_by omega

/-- All digits of the value. -/
def Dyadic.exact (x : Dyadic) : Scaled :=
  if 0 ≤ x.exponent then ⟨x.significand * Nat.pow 2 x.exponent.toNat, 0⟩
  else ⟨x.significand * Nat.pow 5 (-x.exponent).toNat, x.exponent⟩

/-- The fewest digits that identify a positive value. -/
def Dyadic.shortest (x : Dyadic) (tie : Tie) : Scaled :=
  let magnitude := x.magnitude
  let grids := (List.range 17).map fun (n : Nat) => magnitude - ((n : Int) + 1)
  ((grids.findSome? (x.onGrid tie)).getD x.exact).reduce

end ChatLedger.Decimal
