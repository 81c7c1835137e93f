import ChatLedger.Time.Text

/-!
# Times as they are shown

Instants as people read them: a date, a date with the minute, or one with the second.
-/

namespace ChatLedger.Time

/-- The date. -/
def Date.shownChars (d : Date) : List Char :=
  yearChars d.year ++ '-' :: padded 2 d.month ++ '-' :: padded 2 d.day

/-- The date of an instant. -/
def Instant.shownDate (t : Instant) : String := String.ofList t.reading.date.shownChars

/-- Date and time of day, down to the minute. -/
def Instant.shownMinute (t : Instant) : String :=
  let r := t.reading
  String.ofList (r.date.shownChars ++ ' ' :: padded 2 r.hour ++ ':' :: padded 2 r.minute)

/-- Date and time of day, down to the second. -/
def Instant.shownSecond (t : Instant) : String :=
  let r := t.reading
  String.ofList (r.date.shownChars ++ ' ' :: padded 2 r.hour ++ ':' :: padded 2 r.minute ++
    ':' :: padded 2 r.second)

end ChatLedger.Time
