import ChatLedger.Decimal.Layout
import ChatLedger.Json.Value

/-!
# Writing documents

1. `Json.compact` writes a document without blanks.
2. `Json.pretty` writes one member or item a line, two blanks deeper than its record or list.
-/

namespace ChatLedger.Json

/-- A hexadecimal digit in lower case. -/
def hexDigit (n : Nat) : Char := (Nat.toDigits 16 (n % 16)).headD '0'

/-- A character inside a string. -/
def escapedChar (c : Char) : List Char :=
  match c with
  | '"' => ['\\', '"']
  | '\\' => ['\\', '\\']
  | '\x08' => ['\\', 'b']
  | '\x0c' => ['\\', 'f']
  | '\n' => ['\\', 'n']
  | '\r' => ['\\', 'r']
  | '\t' => ['\\', 't']
  | c =>
    if c.toNat < 0x20 then ['\\', 'u', '0', '0', hexDigit (c.toNat / 16), hexDigit c.toNat]
    else [c]

/-- A string between quotes. -/
def quoted (s : String) : String :=
  String.ofList ('"' :: (s.toList.flatMap escapedChar ++ ['"']))

/-- A document that is neither list nor record. -/
def leaf : Json → String
  | .null | .unreadable => "null"
  | .bool true => "true"
  | .bool false => "false"
  | .integer n => toString n
  | .number x => Decimal.Layout.wire.render x
  | .text s => quoted s
  | .list _ => "[]"
  | .record _ => "\x7b\x7d"

mutual

/-- The document without blanks. -/
def compact : Json → String
  | .list items => "[" ++ compactItems items ++ "]"
  | .record members => "\x7b" ++ compactMembers members ++ "\x7d"
  | value => value.leaf

/-- Items with commas between them. -/
def compactItems : List Json → String
  | [] => ""
  | [item] => item.compact
  | item :: rest => item.compact ++ "," ++ compactItems rest

/-- Members with commas between them. -/
def compactMembers : List (String × Json) → String
  | [] => ""
  | [(name, value)] => quoted name ++ ":" ++ value.compact
  | (name, value) :: rest => quoted name ++ ":" ++ value.compact ++ "," ++ compactMembers rest

end

/-- A line break and the blanks of the given depth. -/
def newLine (depth : Nat) : String := String.ofList ('\n' :: List.replicate (2 * depth) ' ')

mutual

/-- The document over several lines, at the given depth. -/
def prettyAt (depth : Nat) : Json → String
  | .list (item :: rest) => "[" ++ prettyItems depth (item :: rest) ++ newLine depth ++ "]"
  | .record (member :: rest) =>
    "\x7b" ++ prettyMembers depth (member :: rest) ++ newLine depth ++ "\x7d"
  | value => value.leaf

/-- Items, each on a line of its own. -/
def prettyItems (depth : Nat) : List Json → String
  | [] => ""
  | [item] => newLine (depth + 1) ++ prettyAt (depth + 1) item
  | item :: rest =>
    newLine (depth + 1) ++ prettyAt (depth + 1) item ++ "," ++ prettyItems depth rest

/-- Members, each on a line of its own. -/
def prettyMembers (depth : Nat) : List (String × Json) → String
  | [] => ""
  | [(name, value)] => newLine (depth + 1) ++ quoted name ++ ": " ++ prettyAt (depth + 1) value
  | (name, value) :: rest =>
    newLine (depth + 1) ++ quoted name ++ ": " ++ prettyAt (depth + 1) value ++ "," ++
      prettyMembers depth rest

end

/-- The document over several lines. -/
def pretty (value : Json) : String := prettyAt 0 value

end ChatLedger.Json
