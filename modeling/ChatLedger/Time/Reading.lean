import ChatLedger.Text.Blank
import ChatLedger.Time.Instant

/-!
# Reading time texts

1. `readStored` accepts the strict form: four-digit years, two-digit fields, `T`, `t` or one space
   between date and time, a fraction of any length, and a zone `Z` or `+hh:mm`. It says why it
   refuses a text: the first fault from the left counts, where a day that does not exist is a fault
   behind the day, and a time of day that does not exist one behind the fraction.
2. `readWire?` is lenient: fields may have one digit, years a sign and more digits, blanks may
   stand between the parts, and the zone may also be `UTC` or lack its colon.

Digits beyond the ninth of a fraction are dropped. Second 60 is a leap second.
-/

namespace ChatLedger.Time

open Text

/-- Why a text is no time. -/
inductive TimeFault where
  | outOfRange
  | invalid
  | tooShort
  | tooLong
  deriving Repr, DecidableEq

/-- The text of the fault. -/
def TimeFault.message : TimeFault → String
  | .outOfRange => "input is out of range"
  | .invalid => "input contains invalid characters"
  | .tooShort => "premature end of input"
  | .tooLong => "trailing input"

/-- A reader of the front of a text. -/
abbrev Reader (α : Type) := StateT (List Char) (Except TimeFault) α

/-- The number of bytes of a text. -/
def byteLength (cs : List Char) : Nat := cs.foldl (fun n c => n + c.utf8Size) 0

/-- The value of a list of decimal digits. -/
def digitsValue (cs : List Char) : Nat := cs.foldl (fun n c => 10 * n + (c.toNat - '0'.toNat)) 0

/-- Reads the digits at the front: at least `low` and at most `high` of them. -/
def readDigits (low high : Nat) : Reader (List Char) := fun cs =>
  if byteLength cs < low then .error .tooShort
  else
    let digits := (cs.take high).takeWhile Char.isDigit
    if digits.length < low then .error .invalid else .ok (digits, cs.drop digits.length)

/-- Reads one of the given characters. -/
def readOneOf (accepted : List Char) : Reader Unit
  | [] => .error .tooShort
  | c :: rest => if accepted.contains c then .ok ((), rest) else .error .invalid

/-- Refuses a number outside the bounds. -/
def within (low high n : Nat) : Reader Nat :=
  if low ≤ n ∧ n ≤ high then pure n else throw .outOfRange

/-- Reads the digits of a fraction as nanoseconds, the tenth and later ones dropped. -/
def readNanos : Reader Nat := do
  let digits ← readDigits 1 9
  modify fun cs => cs.dropWhile Char.isDigit
  return digitsValue digits * Nat.pow 10 (9 - digits.length)

/-- Reads a fraction if there is one. -/
def readFraction : Reader Nat := do
  match ← get with
  | '.' :: rest =>
    set rest
    readNanos
  | _ => return 0

/-- Reads two digits, the first one at most `top`. -/
def readPair (top : Char) : Reader Nat := do
  let cs ← get
  if byteLength cs < 2 then throw .tooShort
  match cs with
  | c :: d :: rest =>
    if c.isDigit ∧ d.isDigit then
      if top < c then throw .outOfRange
      set rest
      return digitsValue [c, d]
    else throw .invalid
  | _ => throw .invalid

/-- Reads a zone as seconds: `Z`, or a sign, hours, whatever `colon` accepts, and minutes. -/
def readZone (colon : Reader Unit) : Reader Int := do
  match ← get with
  | [] => throw .tooShort
  | c :: rest =>
    set rest
    if c = 'Z' ∨ c = 'z' then return 0
    else if c = '+' ∨ c = '-' ∨ c = '−' then
      let hours ← readPair '9'
      colon
      let minutes ← readPair '5'
      let seconds : Int := hours * 3600 + minutes * 60
      return if c = '+' then seconds else -seconds
    else throw .invalid

/-! ## The strict form -/

/-- The fewest bytes of a date and a time of day down to the second. -/
def strictLength : Nat := 19

/-- Reads a day that exists. -/
def readDate : Reader Date := do
  let year := digitsValue (← readDigits 4 4)
  readOneOf ['-']
  let month := digitsValue (← readDigits 2 2)
  readOneOf ['-']
  let day := digitsValue (← readDigits 2 2)
  let date : Date := ⟨year, month, day⟩
  if date.isValid then return date else throw .outOfRange

/-- Reads a time of day, with its fraction, and sets it behind the date. -/
def readClock (date : Date) : Reader ClockReading := do
  let hour := digitsValue (← readDigits 2 2)
  readOneOf [':']
  let minute := digitsValue (← readDigits 2 2)
  readOneOf [':']
  let second := digitsValue (← readDigits 2 2)
  let nanos ← readFraction
  if 24 ≤ hour ∨ 60 ≤ minute ∨ 61 ≤ second then throw .outOfRange
  return ⟨date, hour, minute, second, nanos⟩

/-- Reads a time of the strict form at the front of a text. -/
def readStrict : Reader (ClockReading × Int) := do
  if byteLength (← get) < strictLength then throw .tooShort
  let date ← readDate
  readOneOf ['t', 'T', ' ']
  let reading ← readClock date
  return (reading, ← readZone (readOneOf [':']))

/-- The instant that a text of the strict form names. -/
def readStored (text : String) : Except TimeFault Instant := do
  let ((reading, offset), rest) ← readStrict.run text.toList
  if rest ≠ [] then throw .tooLong
  if 86340 < offset.natAbs then throw .outOfRange
  match reading.instant? offset with
  | some t => return t
  | none => throw .outOfRange

/-! ## The lenient form -/

/-- Skips blanks. -/
def skipBlanks : Reader Unit := modify trimStart

/-- Reads a year: up to four digits, or a sign and any number of digits. -/
def readYear : Reader Int := do
  skipBlanks
  match ← get with
  | '-' :: rest =>
    set rest
    return -(digitsValue (← readDigits 1 rest.length))
  | '+' :: rest =>
    set rest
    return digitsValue (← readDigits 1 rest.length)
  | _ => return digitsValue (← readDigits 1 4)

/-- Reads a field of one or two digits, with blanks before it. -/
def readField (low high : Nat) : Reader Nat := do
  skipBlanks
  within low high (digitsValue (← readDigits 1 2))

/-- Reads a separator with blanks before it. -/
def readSeparator (c : Char) : Reader Unit := do
  skipBlanks
  readOneOf [c]

/-- Reads a zone with blanks before it, or the name of the zone without offset. -/
def readNamedZone : Reader Int := do
  skipBlanks
  match ← get with
  | a :: b :: c :: rest =>
    if [a.toUpper, b.toUpper, c.toUpper] = ['U', 'T', 'C'] then
      set rest
      return 0
    else readZone (modify fun cs => cs.dropWhile fun c => c == ':' || isBlank c)
  | _ => readZone (modify fun cs => cs.dropWhile fun c => c == ':' || isBlank c)

/-- Reads a time of the lenient form at the front of a text. -/
def readLenient : Reader (ClockReading × Int) := do
  let year ← readYear
  readSeparator '-'
  let month ← readField 1 12
  readSeparator '-'
  let day ← readField 1 31
  readOneOf ['t', 'T', ' ']
  let hour ← readField 0 23
  readSeparator ':'
  let minute ← readField 0 59
  readSeparator ':'
  let second ← readField 0 60
  let nanos ← readFraction
  let offset ← readNamedZone
  if 86400 ≤ offset.natAbs then throw .outOfRange
  return (⟨⟨year, month, day⟩, hour, minute, second, nanos⟩, offset)

/-- The instant that a text of the lenient form names. -/
def readWire? (text : String) : Option Instant :=
  match readLenient.run text.toList with
  | .ok ((reading, offset), rest) =>
    if trimStart rest = [] then reading.instant? offset else none
  | .error _ => none

end ChatLedger.Time
