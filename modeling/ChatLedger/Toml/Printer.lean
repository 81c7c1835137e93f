import ChatLedger.Json.Printer

/-!
# Writing settings documents

`Toml.sections` writes a record of records as sections with one key a line. A text is written in
the first of four ways that needs no escapes: between quotation marks, between apostrophes, and
then between three of either. Where none will do it stands between quotation marks, with escapes.
Between three marks a text with line breaks begins on a line of its own.
-/

namespace ChatLedger.Toml

/-- The character cannot be written as it is anywhere. -/
def isControl (c : Char) : Bool :=
  (c.toNat < 0x20 && c != '\t' && c != '\n') || c.toNat == 0x7F

/-- The longest run of a mark, given the length of the run that ends here. -/
def longestRun (mark : Char) (run : Nat) : List Char → Nat
  | [] => run
  | c :: rest =>
    if c = mark then longestRun mark (run + 1) rest else max run (longestRun mark 0 rest)

/-- How a text is written: with which mark, with how many of them, and with escapes or not. -/
structure Style where
  mark : Char
  tripled : Bool
  escaped : Bool
  deriving Repr, DecidableEq

/-- The way in which a text is written. -/
def Style.of (cs : List Char) : Style :=
  let broken := cs.contains '\n'
  let quotes := longestRun '"' 0 cs
  let apostrophes := longestRun '\'' 0 cs
  let backslash := cs.contains '\\'
  if cs.any isControl then ⟨'"', broken, true⟩
  else if !backslash && quotes = 0 && !broken then ⟨'"', false, true⟩
  else if apostrophes = 0 && !broken then ⟨'\'', false, false⟩
  else if !backslash && quotes ≤ 2 then ⟨'"', true, true⟩
  else if apostrophes ≤ 2 then ⟨'\'', true, false⟩
  else ⟨'"', broken, true⟩

/-- A capital hexadecimal digit. -/
def capitalDigit (n : Nat) : Char := (Json.hexDigit n).toUpper

/-- A character other than a quotation mark between quotation marks. -/
def escapedChar (tripled : Bool) (c : Char) : List Char :=
  match c with
  | '\\' => ['\\', '\\']
  | '\x08' => ['\\', 'b']
  | '\x0c' => ['\\', 'f']
  | '\n' => if tripled then ['\n'] else ['\\', 'n']
  | '\r' => ['\\', 'r']
  | '\t' => ['\\', 't']
  | c =>
    if isControl c then
      ['\\', 'u', '0', '0', capitalDigit (c.toNat / 16), capitalDigit c.toNat]
    else [c]

/-- A text between quotation marks, after `run` of its own that stand as they are. Between three
marks two may stand so, and every third one is escaped. -/
def escapedChars (tripled : Bool) (run : Nat) : List Char → List Char
  | [] => []
  | c :: rest =>
    if c = '"' then
      if tripled && run < 2 then '"' :: escapedChars tripled (run + 1) rest
      else '\\' :: '"' :: escapedChars tripled 0 rest
    else escapedChar tripled c ++ escapedChars tripled 0 rest

/-- A text as a value. -/
def quoted (s : String) : String :=
  let cs := s.toList
  let style := Style.of cs
  let marks := List.replicate (if style.tripled then 3 else 1) style.mark
  let start := if style.tripled && cs.contains '\n' then ['\n'] else []
  let body := if style.escaped then escapedChars style.tripled 0 cs else cs
  String.ofList (marks ++ start ++ body ++ marks)

/-- A value of a key. -/
def scalar : Json → String
  | .text s => quoted s
  | value => value.leaf

/-- A section: its name, then its keys. -/
def sectionText (name : String) (members : List (String × Json)) : String :=
  "[" ++ name ++ "]\n" ++
    String.join (members.map fun (key, value) => key ++ " = " ++ scalar value ++ "\n")

/-- A record of records as sections, with an empty line between them. -/
def sections : Json → String
  | .record members =>
    String.intercalate "\n" (members.map fun (name, value) =>
      match value with
      | .record inner => sectionText name inner
      | value => name ++ " = " ++ scalar value ++ "\n")
  | _ => ""

end ChatLedger.Toml
