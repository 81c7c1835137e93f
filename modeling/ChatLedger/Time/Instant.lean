import ChatLedger.Time.Calendar

/-!
# Instants

A point in time, counted in seconds from the start of 1970 and in nanoseconds within the second.

1. The count of nanoseconds runs up to two seconds: what lies beyond the first second is a leap
   second. It may follow any second, though a clock shows second 60 only behind the last second of
   a minute.
2. Instants lie in the years -262143 to 262142.
3. A `Clock` may be read more than once, and shows another instant each time.
-/

namespace ChatLedger.Time

/-- Nanoseconds in a second. -/
def second : Nat := 1000000000

/-- Seconds in a day. -/
def secondsPerDay : Int := 86400

/-- The first second of year -262143. -/
def firstSecond : Int := -8334601228800

/-- The last second of year 262142. -/
def lastSecond : Int := 8210266876799

/-- A point in time. -/
structure Instant where
  /-- Seconds since the start of 1970. -/
  seconds : Int
  /-- Nanoseconds since that second began. -/
  nanos : Nat
  first_le : firstSecond ≤ seconds
  le_last : seconds ≤ lastSecond
  nanos_lt : nanos < 2 * second
  deriving DecidableEq

instance : Repr Instant := ⟨fun t _ => repr (t.seconds, t.nanos)⟩

/-- The instant with these counts, if there is one. -/
def Instant.of? (seconds : Int) (nanos : Nat) : Option Instant :=
  if h : firstSecond ≤ seconds ∧ seconds ≤ lastSecond ∧ nanos < 2 * second then
    some ⟨seconds, nanos, h.1, h.2.1, h.2.2⟩
  else none

/-- The start of 2026. -/
def Instant.start2026 : Instant :=
  ⟨1767225600, 0, by decide, by decide, by decide⟩

/-- The instant a number of seconds later, or the same one where the range ends. -/
def Instant.after (t : Instant) (seconds : Nat) : Instant :=
  (Instant.of? (t.seconds + seconds) t.nanos).getD t

/-- The instant without what is finer than a microsecond. -/
def Instant.toMicros (t : Instant) : Instant :=
  ⟨t.seconds, t.nanos / 1000 * 1000, t.first_le, t.le_last,
    Nat.lt_of_le_of_lt (Nat.div_mul_le_self ..) t.nanos_lt⟩

/-- A clock, by what it shows each time that it is read. Behind the last of these readings it stands
still. -/
structure Clock where
  first : Instant
  later : List Instant
  deriving Repr, DecidableEq

/-- A clock that shows the same instant each time. -/
def Clock.still (t : Instant) : Clock := ⟨t, []⟩

instance : Coe Instant Clock := ⟨Clock.still⟩

/-- A clock that stands still at the start of 2026. -/
def Clock.start2026 : Clock := .still .start2026

/-- All that the clock shows. -/
def Clock.readings (c : Clock) : List Instant := c.first :: c.later

/-- What the clock shows after it has been read `n` times. -/
def Clock.reading (c : Clock) (n : Nat) : Instant := (c.later.take n).getLastD c.first

instance : CoeFun Clock fun _ => Nat → Instant := ⟨Clock.reading⟩

theorem Clock.reading_mem (c : Clock) (n : Nat) : c n ∈ c.readings := by
  have hlast : c n ∈ c.first :: c.later.take n := List.getLastD_mem_cons
  rcases List.mem_cons.1 hlast with h | h
  · exact List.mem_cons.2 (.inl h)
  · exact List.mem_cons_of_mem _ (List.mem_of_mem_take h)

@[simp] theorem Clock.still_reading (t : Instant) (n : Nat) : Clock.still t n = t := by
  simp [still, reading]

@[simp] theorem Clock.readings_still (t : Instant) : (Clock.still t).readings = [t] := rfl

/-- A date with a time of day, as a clock shows it: a leap second shows as second 60. -/
structure ClockReading where
  date : Date
  hour : Nat
  minute : Nat
  second : Nat
  nanos : Nat
  deriving Repr, DecidableEq

/-- What a clock without offset shows at the instant. -/
def Instant.reading (t : Instant) : ClockReading :=
  let ofDay := (t.seconds % secondsPerDay).toNat
  let leap := t.nanos / Time.second
  { date := Date.ofDays (t.seconds / secondsPerDay)
    hour := ofDay / 3600
    minute := ofDay / 60 % 60
    second := ofDay % 60 + leap
    nanos := t.nanos % Time.second }

/-- The instant at which a clock that runs `offset` seconds ahead shows the reading. Second 60 is
the leap second after second 59. -/
def ClockReading.instant? (r : ClockReading) (offset : Int) : Option Instant :=
  let shown := if r.second = 60 then 59 else r.second
  let nanos := if r.second = 60 then r.nanos + Time.second else r.nanos
  let ofDay : Int := r.hour * 3600 + r.minute * 60 + shown
  let shownAt := r.date.toDays * secondsPerDay + ofDay
  if r.date.isValid ∧ firstSecond ≤ shownAt ∧ shownAt ≤ lastSecond then
    Instant.of? (shownAt - offset) nanos
  else none

end ChatLedger.Time
