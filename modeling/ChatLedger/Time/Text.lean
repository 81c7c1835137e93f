import ChatLedger.Time.Instant

/-!
# Time texts

Instants as `YYYY-MM-DDThh:mm:ss` in the zone without offset.

1. `Instant.storedText` has always six digits behind the seconds, so that the order of texts is
   the order of instants; what is finer is cut off.
2. `Instant.wireText` has as many digits as needed, of 0, 3, 6 and 9.
3. Years outside 0 to 9999 are written with a sign.
-/

namespace ChatLedger.Time

/-- The digits of a number, with zeros before them up to a width. -/
def padded (width n : Nat) : List Char :=
  let digits := Nat.toDigits 10 n
  List.replicate (width - digits.length) '0' ++ digits

/-- A year of four digits, or one with a sign. -/
def yearChars (year : Int) : List Char :=
  if 0 ≤ year ∧ year ≤ 9999 then padded 4 year.toNat
  else (if year < 0 then '-' else '+') :: padded 4 year.natAbs

/-- Date and time of day, down to the second. -/
def ClockReading.chars (r : ClockReading) : List Char :=
  yearChars r.date.year ++ '-' :: padded 2 r.date.month ++ '-' :: padded 2 r.date.day ++
    'T' :: padded 2 r.hour ++ ':' :: padded 2 r.minute ++ ':' :: padded 2 r.second

/-- The instant to the microsecond, always with six digits. -/
def Instant.storedText (t : Instant) : String :=
  let r := t.reading
  String.ofList (r.chars ++ '.' :: padded 6 (r.nanos / 1000) ++ ['Z'])

/-- The fraction of a second in the fewest groups of three digits that show it. -/
def fractionChars (nanos : Nat) : List Char :=
  if nanos = 0 then []
  else if nanos % 1000000 = 0 then '.' :: padded 3 (nanos / 1000000)
  else if nanos % 1000 = 0 then '.' :: padded 6 (nanos / 1000)
  else '.' :: padded 9 nanos

/-- The instant to the nanosecond, without needless digits. -/
def Instant.wireText (t : Instant) : String :=
  let r := t.reading
  String.ofList (r.chars ++ fractionChars r.nanos ++ ['Z'])

end ChatLedger.Time
