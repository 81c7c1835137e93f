/-!
# Compensated sums

Sums of binary64 numbers that carry the rounding error of every addition along and add it at the
end, so that ten times one tenth is one.
-/

namespace ChatLedger.Decimal

/-- A running sum and the error that its additions have left out. -/
structure RunningSum where
  total : Float
  error : Float

/-- Adds one number and notes what the addition lost. -/
def RunningSum.add (sum : RunningSum) (x : Float) : RunningSum :=
  let total := sum.total + x
  let lost := if sum.total.abs > x.abs then (sum.total - total) + x else (x - total) + sum.total
  ⟨total, sum.error + lost⟩

/-- The sum with its error added, unless the error is no finite number. -/
def RunningSum.value (sum : RunningSum) : Float :=
  if sum.error.isFinite then sum.total + sum.error else sum.total

/-- The compensated sum of the numbers in their order; zero when there are none. -/
def compensatedSum (xs : List Float) : Float := (xs.foldl RunningSum.add ⟨0.0, 0.0⟩).value

end ChatLedger.Decimal
