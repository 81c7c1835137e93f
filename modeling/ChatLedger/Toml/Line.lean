import ChatLedger.Json.Value
import ChatLedger.Toml.Scalar

/-!
# Lines of a TOML document

A document is a sequence of entries and table headers. Values become documents of the library:
arrays become lists, tables records, and a date or time a record without members, since no field
has one.
-/

namespace ChatLedger.Toml

/-- A dotted key: the names before the last one, and the last one. -/
structure Key where
  path : List String
  name : String
  deriving Repr, DecidableEq

/-- A line that says something. -/
inductive Line where
  | header (key : Key)
  /-- A header that adds an element to an array of tables. -/
  | element (key : Key)
  | entry (key : Key) (value : Json)

/-- Keys have fewer names, and values are nested less deeply. -/
def nestingLimit : Nat := 80

/-! ## Keys -/

/-- The character may stand in a name without quotes. -/
def isBare (c : Char) : Bool := c.isAlphanum || c == '_' || c == '-'

/-- Reads one name of a key. -/
def readName? : List Char → Option (String × List Char)
  | '"' :: rest =>
    (readLine? '"' false (rest.length + 1) rest).map fun (cs, rest) => (String.ofList cs, rest)
  | '\'' :: rest =>
    (readLine? '\'' true (rest.length + 1) rest).map fun (cs, rest) => (String.ofList cs, rest)
  | cs =>
    let name := cs.takeWhile isBare
    if name = [] then none else some (String.ofList name, cs.drop name.length)

/-- Reads the names of a key, with the blanks around them. -/
def readNames? : Nat → List Char → Option (List String × List Char)
  | 0, _ => none
  | fuel + 1, cs => do
    let (name, rest) ← readName? (skipBlanks cs)
    match skipBlanks rest with
    | '.' :: rest =>
      let (names, rest) ← readNames? fuel rest
      return (name :: names, rest)
    | rest => return ([name], rest)

/-- Reads a key. -/
def readKey? (cs : List Char) : Option (Key × List Char) := do
  let (names, rest) ← readNames? (cs.length + 1) cs
  if nestingLimit ≤ names.length then none
  return (⟨names.dropLast, names.getLast?.getD ""⟩, rest)

/-! ## Tables under construction -/

/-- What a name stands for while a document is put together. -/
inductive Node where
  | value (v : Json)
  /-- A table. It is implicit until a header names it, and dotted if only dotted keys have. -/
  | table (implicit dotted : Bool) (entries : List (String × Node))
  | elements (items : List (List (String × Node)))

/-- The names of a table and what they stand for. -/
abbrev Entries := List (String × Node)

/-- The entries with the given name put, changed, or left out where the change fails. -/
def alter (name : String) (change : Option Node → Option Node) : Entries → Option Entries
  | [] => (change none).map fun node => [(name, node)]
  | (other, node) :: rest =>
    if other = name then (change (some node)).map fun node => (name, node) :: rest
    else (alter name change rest).map ((other, node) :: ·)

/-- The entries with the table at the end of a path changed; `change` is told whether that table is
dotted. Tables that are missing on the way are made. A dotted path does not lead into tables that a
header names, and no path leads into values. -/
def descend (dotted : Bool) (change : Bool → Entries → Option Entries) :
    List String → Bool → Entries → Option Entries
  | [], isDotted, entries => change isDotted entries
  | name :: path, _, entries =>
    alter name (fun
      | none => (descend dotted change path dotted []).map (.table true dotted)
      | some (.value _) => none
      | some (.table implicit isDotted inner) =>
        if dotted && !implicit then none
        else (descend dotted change path isDotted inner).map (.table implicit isDotted)
      | some (.elements items) => do
        let last ← items.getLast?
        let last ← descend dotted change path false last
        return .elements (items.dropLast ++ [last])) entries

/-- The entries with a new one. The name has to be free, and dotted keys only add to tables that
dotted keys have made. -/
def insert (key : Key) (value : Json) (isDotted : Bool) (entries : Entries) : Option Entries :=
  descend true (fun isDotted entries =>
    if isDotted == key.path.isEmpty then none
    else alter key.name (fun
      | none => some (.value value)
      | some _ => none) entries) key.path isDotted entries

mutual

/-- The document that a table under construction has become. -/
def Node.json : Node → Json
  | .value v => v
  | .table _ _ entries => .record (entriesJson entries)
  | .elements items => .list (elementsJson items)

/-- The members of a record. -/
def entriesJson : List (String × Node) → List (String × Json)
  | [] => []
  | (name, node) :: rest => (name, node.json) :: entriesJson rest

/-- The elements of an array of tables. -/
def elementsJson : List (List (String × Node)) → List Json
  | [] => []
  | entries :: rest => .record (entriesJson entries) :: elementsJson rest

end

/-! ## Values -/

/-- The character may stand in a number, a date or a word. -/
def isWordChar (c : Char) : Bool := c.isAlphanum || ['_', '+', '-', '.', ':'].contains c

/-- Reads a value without quotes and brackets. A date may be followed by a blank and a time. -/
def readWord? (cs : List Char) : Option (Json × List Char) :=
  let word := cs.takeWhile isWordChar
  let rest := cs.drop word.length
  if word = ['t', 'r', 'u', 'e'] then some (.bool true, rest)
  else if word = ['f', 'a', 'l', 's', 'e'] then some (.bool false, rest)
  else if isDate word then
    match rest with
    | ' ' :: more =>
      let time := more.takeWhile isWordChar
      if isTime true time then some (.record [], more.drop time.length)
      else some (.record [], rest)
    | _ => some (.record [], rest)
  else if isDateTime word then some (.record [], rest)
  else
    match integer? word with
    | some n => some (.integer n, rest)
    | none => (float? word).map fun x => (.number x, rest)

mutual

/-- Reads a value at the front of a text, at the given depth. -/
def readValue? : Nat → Nat → List Char → Option (Json × List Char)
  | 0, _, _ => none
  | fuel + 1, depth, cs =>
    match cs with
    | '"' :: rest => (readString? '"' rest).map fun (s, rest) => (.text s, rest)
    | '\'' :: rest => (readString? '\'' rest).map fun (s, rest) => (.text s, rest)
    | '[' :: rest =>
      if nestingLimit ≤ depth + 1 then none
      else (readItems? fuel (depth + 1) rest).map fun (items, rest) => (.list items, rest)
    | '{' :: rest =>
      if nestingLimit ≤ depth + 1 then none
      else
        match skipBlanks rest with
        | '}' :: rest => some (.record [], rest)
        | rest => do
          let (entries, rest) ← readEntries? fuel (depth + 1) [] rest
          return (.record (entriesJson entries), rest)
    | _ => readWord? cs

/-- Reads the items of an array up to its end. -/
def readItems? : Nat → Nat → List Char → Option (List Json × List Char)
  | 0, _, _ => none
  | fuel + 1, depth, cs =>
    match skipSpace (cs.length + 1) cs with
    | ']' :: rest => some ([], rest)
    | cs => do
      let (item, rest) ← readValue? fuel depth cs
      match skipSpace (rest.length + 1) rest with
      | ',' :: rest =>
        let (items, rest) ← readItems? fuel depth rest
        return (item :: items, rest)
      | ']' :: rest => return ([item], rest)
      | _ => none

/-- Reads the entries of a table in braces up to its end, after those that are there. -/
def readEntries? : Nat → Nat → Entries → List Char → Option (Entries × List Char)
  | 0, _, _, _ => none
  | fuel + 1, depth, entries, cs => do
    let (key, rest) ← readKey? cs
    match rest with
    | '=' :: rest =>
      let (value, rest) ← readValue? fuel depth (skipBlanks rest)
      let entries ← insert key value false entries
      match skipBlanks rest with
      | ',' :: rest => readEntries? fuel depth entries rest
      | '}' :: rest => return (entries, rest)
      | _ => none
    | _ => none

end

/-! ## Lines -/

/-- Reads a line that says something. -/
def readExpression? : List Char → Option (Line × List Char)
  | '[' :: '[' :: rest => do
    let (key, rest) ← readKey? rest
    match rest with
    | ']' :: ']' :: rest => return (.element key, ← lineEnd? rest)
    | _ => none
  | '[' :: rest => do
    let (key, rest) ← readKey? rest
    match rest with
    | ']' :: rest => return (.header key, ← lineEnd? rest)
    | _ => none
  | cs => do
    let (key, rest) ← readKey? cs
    match rest with
    | '=' :: rest =>
      let (value, rest) ← readValue? (rest.length + 1) 0 (skipBlanks rest)
      return (.entry key value, ← lineEnd? rest)
    | _ => none

/-- The lines of a document. -/
def readAll? : Nat → List Char → Option (List Line)
  | 0, _ => none
  | fuel + 1, cs =>
    match skipSpace (cs.length + 1) cs with
    | [] => some []
    | cs => do
      let (line, rest) ← readExpression? cs
      return line :: (← readAll? fuel rest)

end ChatLedger.Toml
