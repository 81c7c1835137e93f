import ChatLedger.Decimal.Reading
import ChatLedger.Time.Calendar

/-!
# Words of a TOML document

Strings, numbers, dates and times by the grammar of TOML 1.0, each read at the front of a text.

1. Blanks are spaces and tabs, lines end in a line feed with an optional carriage return before it,
   and no other control character stands anywhere.
2. Of dates and times only the form is checked; no value of this library is one.
-/

namespace ChatLedger.Toml

open Decimal

/-! ## Blanks, comments and lines -/

/-- A space or a tab. -/
def isBlank (c : Char) : Bool := c == ' ' || c == '\t'

/-- The character may stand in comments and, with the exception of quotes and backslashes, in
strings. -/
def isPlain (c : Char) : Bool := c == '\t' || (0x20 ≤ c.toNat && c.toNat ≠ 0x7F)

/-- Skips spaces and tabs. -/
def skipBlanks (cs : List Char) : List Char := cs.dropWhile isBlank

/-- Skips a comment if there is one. -/
def skipComment : List Char → List Char
  | '#' :: rest => rest.dropWhile isPlain
  | cs => cs

/-- The text behind a line break. -/
def newline? : List Char → Option (List Char)
  | '\n' :: rest | '\r' :: '\n' :: rest => some rest
  | _ => none

/-- The text behind what may follow at the end of a line. -/
def lineEnd? (cs : List Char) : Option (List Char) :=
  match skipComment (skipBlanks cs) with
  | [] => some []
  | rest => newline? rest

/-- Skips blanks, comments and line breaks. -/
def skipSpace : Nat → List Char → List Char
  | 0, cs => cs
  | fuel + 1, cs =>
    let rest := skipComment (skipBlanks cs)
    match newline? rest with
    | some rest => skipSpace fuel rest
    | none => rest

/-! ## Strings -/

/-- The character that a run of hexadecimal digits stands for. -/
def scalar? (digits : List Char) : Option Char := do
  let value (c : Char) : Option Nat :=
    if c.isDigit then some (c.toNat - '0'.toNat)
    else if 'a' ≤ c ∧ c ≤ 'f' then some (c.toNat - 'a'.toNat + 10)
    else if 'A' ≤ c ∧ c ≤ 'F' then some (c.toNat - 'A'.toNat + 10)
    else none
  let n := (← digits.mapM value).foldl (fun n d => 16 * n + d) 0
  if n.isValidChar then some (Char.ofNat n) else none

/-- Reads what follows a backslash: the character that it stands for. -/
def readEscape? : List Char → Option (Char × List Char)
  | 'b' :: rest => some ('\x08', rest)
  | 't' :: rest => some ('\t', rest)
  | 'n' :: rest => some ('\n', rest)
  | 'f' :: rest => some ('\x0c', rest)
  | 'r' :: rest => some ('\r', rest)
  | '"' :: rest => some ('"', rest)
  | '\\' :: rest => some ('\\', rest)
  | 'u' :: rest =>
    if rest.length < 4 then none else (scalar? (rest.take 4)).map fun c => (c, rest.drop 4)
  | 'U' :: rest =>
    if rest.length < 8 then none else (scalar? (rest.take 8)).map fun c => (c, rest.drop 8)
  | _ => none

/-- Reads a string of one line behind its opening quote; backslashes are read as escapes unless the
string is literal. -/
def readLine? (quote : Char) (literal : Bool) : Nat → List Char → Option (List Char × List Char)
  | 0, _ => none
  | _ + 1, [] => none
  | fuel + 1, c :: rest => do
    if c = quote then return ([], rest)
    if c = '\\' ∧ !literal then
      let (c, rest) ← readEscape? rest
      let (more, rest) ← readLine? quote literal fuel rest
      return (c :: more, rest)
    if isPlain c then
      let (more, rest) ← readLine? quote literal fuel rest
      return (c :: more, rest)
    none

/-- Skips a line break that a backslash has escaped, and all blank lines and blanks behind it. -/
def skipEscapedBreak? (cs : List Char) : Option (List Char) :=
  (newline? (skipBlanks cs)).map fun rest => skipLines (rest.length + 1) rest
where
  skipLines : Nat → List Char → List Char
    | 0, cs => cs
    | fuel + 1, cs =>
      match newline? (skipBlanks cs) with
      | some rest => skipLines fuel rest
      | none => skipBlanks cs

/-- Reads a string of several lines behind its opening quotes and the line break after them. Up to
two quotes may stand before the three closing ones. -/
def readLines? (quote : Char) (literal : Bool) : Nat → List Char → Option (List Char × List Char)
  | 0, _ => none
  | _ + 1, [] => none
  | fuel + 1, c :: rest => do
    if c = quote then
      let quotes := 1 + (rest.takeWhile (· == quote)).length
      if 3 ≤ quotes then
        let inside := min (quotes - 3) 2
        return (List.replicate inside quote, rest.drop (inside + 2))
      let (more, rest) ← readLines? quote literal fuel rest
      return (c :: more, rest)
    match newline? (c :: rest) with
    | some rest =>
      let (more, rest) ← readLines? quote literal fuel rest
      return ('\n' :: more, rest)
    | none =>
      if c = '\\' ∧ !literal then
        match skipEscapedBreak? rest with
        | some rest => readLines? quote literal fuel rest
        | none =>
          let (c, rest) ← readEscape? rest
          let (more, rest) ← readLines? quote literal fuel rest
          return (c :: more, rest)
      else if isPlain c then
        let (more, rest) ← readLines? quote literal fuel rest
        return (c :: more, rest)
      else none

/-- Reads a string of any kind behind its first quote. -/
def readString? (quote : Char) (cs : List Char) : Option (String × List Char) :=
  let literal := quote == '\''
  let found :=
    match cs with
    | a :: b :: rest =>
      if a = quote ∧ b = quote then
        readLines? quote literal (rest.length + 1) ((newline? rest).getD rest)
      else readLine? quote literal (cs.length + 1) cs
    | _ => readLine? quote literal (cs.length + 1) cs
  found.map fun (chars, rest) => (String.ofList chars, rest)

/-! ## Numbers -/

/-- Digits of a base, without the underscores that may stand between two of them. -/
def grouped? (isDigit : Char → Bool) (cs : List Char) : Option (List Char) :=
  let separated (pair : Char × Char) : Bool := pair.1 != '_' || pair.2 != '_'
  if cs.all (fun c => isDigit c || c == '_') && (cs.head?.any isDigit) && (cs.getLast?.any isDigit)
      && (cs.zip (cs.drop 1)).all separated then
    some (cs.filter isDigit)
  else none

/-- Decimal digits without a leading zero. -/
def wholeDigits? (cs : List Char) : Option (List Char) :=
  if cs.head? = some '0' ∧ 1 < cs.length then none else grouped? Char.isDigit cs

/-- A text without its sign, and whether the sign is a minus. -/
def splitSign : List Char → Bool × List Char
  | '-' :: rest => (true, rest)
  | '+' :: rest => (false, rest)
  | cs => (false, cs)

/-- The value of digits of a base. -/
def baseValue (base : Nat) (digits : List Char) : Nat :=
  digits.foldl (fun n c =>
    base * n + (if c.isDigit then c.toNat - '0'.toNat else c.toLower.toNat - 'a'.toNat + 10)) 0

/-- A character is a digit of a base up to 16. -/
def isDigitOf (base : Nat) (c : Char) : Bool :=
  (c.isDigit && c.toNat - '0'.toNat < base) || (base == 16 && 'a' ≤ c.toLower && c.toLower ≤ 'f')

/-- A whole number of 64 bits. -/
def integer? (word : List Char) : Option Int :=
  let based (base : Nat) (digits : List Char) : Option Int := do
    let n : Int := baseValue base (← grouped? (isDigitOf base) digits)
    if n ≤ Bounds.highest then some n else none
  match word with
  | '0' :: 'x' :: digits => based 16 digits
  | '0' :: 'o' :: digits => based 8 digits
  | '0' :: 'b' :: digits => based 2 digits
  | _ => do
    let (negative, digits) := splitSign word
    let n : Int := digitsValue 0 (← wholeDigits? digits)
    let n := if negative then -n else n
    if Bounds.lowest ≤ n ∧ n ≤ Bounds.highest then some n else none

/-- A number with a fraction or an exponent, or one of the words for what is not finite. A number
too large to be finite is refused. -/
def float? (word : List Char) : Option Float := do
  let (negative, body) := splitSign word
  if body = ['i', 'n', 'f'] then
    some (Float.ofBits (if negative then 0xFFF0000000000000 else 0x7FF0000000000000))
  else if body = ['n', 'a', 'n'] then some (Float.ofBits 0x7FF8000000000000)
  else
    let (mantissa, exponent) := body.span fun c => c != 'e' && c != 'E'
    let (whole, fraction) := mantissa.span (· != '.')
    if fraction = [] ∧ exponent = [] then none
    let whole ← wholeDigits? whole
    let fraction ← if fraction = [] then some [] else grouped? Char.isDigit (fraction.drop 1)
    let exponent ←
      if exponent = [] then some (0 : Int)
      else
        let (negative, digits) := splitSign (exponent.drop 1)
        (grouped? Char.isDigit digits).map fun digits =>
          let n : Int := digitsValue 0 digits
          if negative then -n else n
    let x := toFloat negative (digitsValue 0 (whole ++ fraction)) (exponent - fraction.length)
    if x.isInf ∧ !negative then none else some x

/-! ## Dates and times -/

/-- The value of exactly two digits. -/
def pair? (a b : Char) : Option Nat :=
  if a.isDigit ∧ b.isDigit then some (digitsValue 0 [a, b]) else none

/-- The text is a date. -/
def isDate : List Char → Bool
  | [a, b, c, d, '-', e, f, '-', g, h] =>
    match pair? a b, pair? c d, pair? e f, pair? g h with
    | some high, some low, some month, some day =>
      (Time.Date.mk (100 * high + low : Nat) month day).isValid
    | _, _, _, _ => false
  | _ => false

/-- The text is nothing, or a zone. -/
def isZone : List Char → Bool
  | [] | ['Z'] | ['z'] => true
  | [sign, a, b, ':', c, d] =>
    (sign == '+' || sign == '-') && (pair? a b).any (· ≤ 23) && (pair? c d).any (· ≤ 59)
  | _ => false

/-- The text is a time of day, with a zone behind it if `zoned` allows one. -/
def isTime (zoned : Bool) : List Char → Bool
  | a :: b :: ':' :: c :: d :: ':' :: e :: f :: rest =>
    let zone? : Option (List Char) :=
      match rest with
      | '.' :: rest =>
        if (rest.takeWhile Char.isDigit).isEmpty then none else some (rest.dropWhile Char.isDigit)
      | rest => some rest
    (pair? a b).any (· ≤ 23) && (pair? c d).any (· ≤ 59) && (pair? e f).any (· ≤ 60) &&
      zone?.any fun zone => zone.isEmpty || (zoned && isZone zone)
  | _ => false

/-- The text is a date, a time of day, or both with a `T` between them. -/
def isDateTime (word : List Char) : Bool :=
  isDate word || isTime false word ||
    (isDate (word.take 10) && (word[10]? == some 'T' || word[10]? == some 't') &&
      isTime true (word.drop 11))

end ChatLedger.Toml
