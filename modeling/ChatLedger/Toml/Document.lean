import ChatLedger.Toml.Line

/-!
# TOML documents

How lines make up a document.

1. A header names a table once. Tables on the way to it are made as needed and may be named later.
2. Entries belong to the table named last, in an array of tables to its last element.
-/

namespace ChatLedger.Toml

/-- The entries with the table of a header made. -/
def openTable (key : Key) (root : Entries) : Option Entries :=
  descend false (fun _ entries => alter key.name (fun
    | none => some (.table false false [])
    | some (.table true false inner) => some (.table false false inner)
    | some _ => none) entries) key.path false root

/-- The entries with an element added to the array of tables of a header. -/
def openElement (key : Key) (root : Entries) : Option Entries :=
  descend false (fun _ entries => alter key.name (fun
    | none => some (.elements [[]])
    | some (.elements items) => some (.elements (items ++ [[]]))
    | some _ => none) entries) key.path false root

/-- The entries with those of some lines added; `current` leads to the table named last. -/
def addLines (current : List String) (root : Entries) : List Line → Option Entries
  | [] => some root
  | .header key :: rest => do addLines (key.path ++ [key.name]) (← openTable key root) rest
  | .element key :: rest => do addLines (key.path ++ [key.name]) (← openElement key root) rest
  | .entry key value :: rest => do
    addLines current (← descend false (fun _ => insert key value false) current false root) rest

/-- The document that a text holds, with an optional mark of its byte order before it. -/
def read? (source : String) : Option Json := do
  let cs :=
    match source.toList with
    | '\uFEFF' :: rest => rest
    | cs => cs
  let lines ← readAll? (cs.length + 1) cs
  return .record (entriesJson (← addLines [] [] lines))

end ChatLedger.Toml
