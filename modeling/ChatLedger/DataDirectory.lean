import ChatLedger.Settings

/-!
# The data directory

Where the program keeps its files, and how the database file is named to the store.

1. `join` puts a path behind a directory. An absolute path replaces the directory.
2. `databaseUrl` names the database file, and `openedPath?` is the file that the store opens for
   such a name, provided that it understands what follows (`isUnderstood`).
-/

namespace ChatLedger.DataDirectory

/-- The path behind the directory. An empty path leaves the directory with a slash at its end. -/
def join (directory path : String) : String :=
  if path.startsWith "/" then path
  else if directory.isEmpty || directory.endsWith "/" then directory ++ path
  else directory ++ "/" ++ path

/-- The name of the data directory in a home directory. -/
def folderName : String := ".parley"

/-- The data directory: the one that the environment names, even by an empty text, else one in the
home directory, else one in the current directory. -/
def resolve (named home : Option String) : String :=
  match named, home with
  | some named, _ => named
  | none, some home => join home folderName
  | none, none => folderName

/-! ## The database -/

/-- What the name of a database file starts with. -/
def scheme : String := "sqlite://"

/-- What stands behind the question mark: the file is to be made if need be. -/
def parameters : String := "mode=rwc"

/-- The name of the database file for the store. -/
def databaseUrl (directory : String) (settings : DatabaseSettings) : String :=
  scheme ++ join directory settings.fileName ++ "?" ++ parameters

/-- The value of a hexadecimal digit of either case. -/
def hexValue? (b : UInt8) : Option UInt8 :=
  if 48 ≤ b ∧ b ≤ 57 then some (b - 48)
  else if 97 ≤ b ∧ b ≤ 102 then some (b - 87)
  else if 65 ≤ b ∧ b ≤ 70 then some (b - 55)
  else none

/-- The bytes with each percent sign and two hexadecimal digits read as one byte. A percent sign
without such digits stands for itself. -/
def percentDecode : List UInt8 → List UInt8
  | [] => []
  | b :: rest =>
    if b = 37 then
      match rest with
      | high :: low :: tail =>
        match hexValue? high, hexValue? low with
        | some h, some l => (16 * h + l) :: percentDecode tail
        | _, _ => b :: percentDecode (high :: low :: tail)
      | [low] => [b, low]
      | [] => [b]
    else b :: percentDecode rest

/-- The text between the scheme and the first question mark. -/
def pathPart? (url : String) : Option (List Char) :=
  if scheme.toList.isPrefixOf url.toList then
    some ((url.toList.drop scheme.toList.length).takeWhile (· != '?'))
  else none

/-- The file that the store opens for a name, unless its path is no text. -/
def openedPath? (url : String) : Option String := do
  let bytes := (String.ofList (← pathPart? url)).toUTF8.toList
  String.fromUTF8? ⟨(percentDecode bytes).toArray⟩

/-- What stands behind the first question mark is what the store understands. -/
def isUnderstood (url : String) : Bool :=
  (url.toList.dropWhile (· != '?')).tail == parameters.toList

end ChatLedger.DataDirectory
