import ChatLedger.Decimal.Reading
import ChatLedger.Json.Value

/-!
# Reading documents

JSON texts by the grammar of RFC 8259, without extensions. Numbers without point and exponent are
integers where they fit into 64 bits; all others are rounded to the nearest binary64 number.
-/

namespace ChatLedger.Json

open Decimal

/-- Skips the four blanks of the grammar. -/
def skipSpace (cs : List Char) : List Char :=
  cs.dropWhile fun c => c == ' ' || c == '\n' || c == '\t' || c == '\r'

/-- The text behind a word, if it starts with the word. -/
def dropWord? (word : String) (cs : List Char) : Option (List Char) :=
  if word.toList.isPrefixOf cs then some (cs.drop word.toList.length) else none

/-! ## Numbers -/

/-- The value of a number of the grammar. A whole number too large for 64 bits is rounded. -/
def numberOf (negative : Bool) (whole fraction : List Char) (exponent : Option Int) : Json :=
  let n := digitsValue 0 whole
  let rounded : Json :=
    let x := toFloat negative (digitsValue n fraction) (exponent.getD 0 - fraction.length)
    if x.isInf then .unreadable else .number x
  if fraction = [] ∧ exponent = none then
    if negative then if n ≠ 0 ∧ Bounds.lowest ≤ -(n : Int) then .integer (-(n : Int)) else rounded
    else if (n : Int) ≤ Bounds.count64 then .integer n else rounded
  else rounded

/-- Reads the digits of an exponent behind its mark. -/
def readExponent? (cs : List Char) : Option (Int × List Char) :=
  let (negative, cs) :=
    match cs with
    | '-' :: rest => (true, rest)
    | '+' :: rest => (false, rest)
    | _ => (false, cs)
  let (digits, rest) := spanDigits cs
  if digits = [] then none
  else
    let value : Int := digitsValue 0 digits
    some (if negative then -value else value, rest)

/-- Reads a number behind its sign. -/
def readNumber? (negative : Bool) (cs : List Char) : Option (Json × List Char) := do
  let (whole, rest) := spanDigits cs
  if whole = [] ∨ (1 < whole.length ∧ whole.head? = some '0') then none
  let (fraction, rest) ←
    match rest with
    | '.' :: rest =>
      let (digits, rest) := spanDigits rest
      if digits = [] then none else some (digits, rest)
    | _ => some ([], rest)
  match rest with
  | 'e' :: rest | 'E' :: rest =>
    let (exponent, rest) ← readExponent? rest
    return (numberOf negative whole fraction (some exponent), rest)
  | _ => return (numberOf negative whole fraction none, rest)

/-! ## Strings -/

/-- Reads four hexadecimal digits. -/
def readUnit? : List Char → Option (Nat × List Char)
  | a :: b :: c :: d :: rest => do
    let value (c : Char) : Option Nat :=
      if c.isDigit then some (c.toNat - '0'.toNat)
      else if 'a' ≤ c ∧ c ≤ 'f' then some (c.toNat - 'a'.toNat + 10)
      else if 'A' ≤ c ∧ c ≤ 'F' then some (c.toNat - 'A'.toNat + 10)
      else none
    return ((((← value a) * 16 + (← value b)) * 16 + (← value c)) * 16 + (← value d), rest)
  | _ => none

/-- The character behind a one-letter escape. -/
def escaped? : Char → Option Char
  | '"' => some '"'
  | '\\' => some '\\'
  | '/' => some '/'
  | 'b' => some '\x08'
  | 'f' => some '\x0c'
  | 'n' => some '\n'
  | 'r' => some '\r'
  | 't' => some '\t'
  | _ => none

/-- The unit is the first half of a character beyond the first 65536. -/
def isHighHalf (unit : Nat) : Bool := 0xD800 ≤ unit && unit < 0xDC00

/-- The unit is the second half of such a character. -/
def isLowHalf (unit : Nat) : Bool := 0xDC00 ≤ unit && unit < 0xE000

/-- Reads a string behind its opening quote: its characters, or none where a half of a character
stands alone, and the text behind the closing quote. -/
def readString? : Nat → List Char → Option (Option (List Char) × List Char)
  | 0, _ => none
  | _ + 1, [] => none
  | fuel + 1, c :: rest => do
    if c = '"' then return (some [], rest)
    if c.toNat < 0x20 then none
    if c ≠ '\\' then
      let (more, rest) ← readString? fuel rest
      return (more.map (c :: ·), rest)
    match rest with
    | 'u' :: rest =>
      let (unit, rest) ← readUnit? rest
      if isHighHalf unit then
        let paired : Option (Nat × List Char) :=
          match rest with
          | '\\' :: 'u' :: rest => (readUnit? rest).filter fun found => isLowHalf found.1
          | _ => none
        match paired with
        | some (low, rest) =>
          let (more, rest) ← readString? fuel rest
          let c := Char.ofNat (0x10000 + (unit - 0xD800) * 0x400 + (low - 0xDC00))
          return (more.map (c :: ·), rest)
        | none =>
          let (_, rest) ← readString? fuel rest
          return (none, rest)
      else
        let (more, rest) ← readString? fuel rest
        return (if isLowHalf unit then none else more.map (Char.ofNat unit :: ·), rest)
    | d :: rest =>
      let c ← escaped? d
      let (more, rest) ← readString? fuel rest
      return (more.map (c :: ·), rest)
    | [] => none

/-! ## Values -/

mutual

/-- Reads a value at the front of a text. -/
def readValue? : Nat → List Char → Option (Json × List Char)
  | 0, _ => none
  | fuel + 1, cs =>
    match skipSpace cs with
    | [] => none
    | '[' :: rest =>
      match skipSpace rest with
      | ']' :: rest => some (.list [], rest)
      | rest => (readItems? fuel rest).map fun (items, rest) => (.list items, rest)
    | '{' :: rest =>
      match skipSpace rest with
      | '}' :: rest => some (.record [], rest)
      | rest => (readMembers? fuel rest).map fun (members, rest) =>
          (match members.mapM fun (name, value) => name.map fun name => (name, value) with
           | some members => .record members
           | none => .unreadable, rest)
    | '"' :: rest =>
      (readString? (rest.length + 1) rest).map fun (found, rest) =>
        (match found with
         | some chars => .text (String.ofList chars)
         | none => .unreadable, rest)
    | '-' :: rest => readNumber? true rest
    | cs =>
      match dropWord? "null" cs with
      | some rest => some (.null, rest)
      | none =>
        match dropWord? "true" cs with
        | some rest => some (.bool true, rest)
        | none =>
          match dropWord? "false" cs with
          | some rest => some (.bool false, rest)
          | none => readNumber? false cs

/-- Reads items up to the end of their list. -/
def readItems? : Nat → List Char → Option (List Json × List Char)
  | 0, _ => none
  | fuel + 1, cs => do
    let (item, rest) ← readValue? fuel cs
    match skipSpace rest with
    | ',' :: rest =>
      let (items, rest) ← readItems? fuel rest
      return (item :: items, rest)
    | ']' :: rest => return ([item], rest)
    | _ => none

/-- Reads members up to the end of their record. A name that holds half of a character is none. -/
def readMembers? : Nat → List Char → Option (List (Option String × Json) × List Char)
  | 0, _ => none
  | fuel + 1, cs => do
    match skipSpace cs with
    | '"' :: rest =>
      let (name, rest) ← readString? (rest.length + 1) rest
      match skipSpace rest with
      | ':' :: rest =>
        let (value, rest) ← readValue? fuel rest
        let member := (name.map String.ofList, value)
        match skipSpace rest with
        | ',' :: rest =>
          let (members, rest) ← readMembers? fuel rest
          return (member :: members, rest)
        | '}' :: rest => return ([member], rest)
        | _ => none
      | _ => none
    | _ => none

end

/-- The document that a text holds, if it holds one and nothing else. -/
def read? (source : String) : Option Json := do
  let cs := source.toList
  let (value, rest) ← readValue? (cs.length + 1) cs
  if skipSpace rest = [] then return value else none

end ChatLedger.Json
