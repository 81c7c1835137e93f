import ChatLedger.Arguments.Usage
import ChatLedger.Command.Grammar
import ChatLedger.Command.Perform
import ChatLedger.Json.Reader
import ChatLedger.Store.Document
import Std.Time.DateTime.Timestamp

/-!
# The program

Reads the command line, the environment and the files, carries the command out, and writes what it
has to say. The store is kept as a document in the database file.
-/

namespace ChatLedger.Console

open Store Time

/-- The version of the program. -/
def versionText : String := "parley 0.1.0"

/-- The bytes of a file, unless it cannot be read. -/
def readBytes? (path : String) : IO (Option ByteArray) := do
  try
    return some (← IO.FS.readBinFile path)
  catch _ =>
    return none

/-- The text of a file, unless it cannot be read or is no text. -/
def readText? (path : String) : IO (Option String) := do
  return (← readBytes? path).bind String.fromUTF8?

/-- The number that the bytes spell. -/
def numberOfBytes (bytes : ByteArray) : Nat := bytes.toList.foldl (fun n b => 256 * n + b.toNat) 0

/-- The time now, in nanoseconds since the start of 1970. -/
def nanosNow : IO Int := do
  return (← Std.Time.Timestamp.now).toNanosecondsSinceUnixEpoch.val

/-- The instant that lies so many nanoseconds after the start of 1970. -/
def instantOf (nanos : Int) : Instant :=
  (Instant.of? (nanos / 1000000000) (nanos % 1000000000).toNat).getD Instant.start2026

/-- The tables that a database file holds; a file that is not there is made. -/
def openTables (path : String) : IO Tables := do
  match ← readText? path with
  | some text =>
    match (Json.read? text).bind Wire.decode with
    | some tables => return tables
    | none => throw (IO.userError "not a database")
  | none => do
    let tables : Tables := {}
    IO.FS.writeFile path (Wire.encode tables).compact
    return tables

/-- Says why the program ends without an answer. -/
def complain (message : String) : IO UInt32 := do
  IO.eprintln ("Error: " ++ message)
  return 1

/-- Answers a command line that holds no command. -/
def refuse (refusal : Arguments.Refusal) : IO UInt32 := do
  match refusal with
  | .version => do
    IO.println versionText
    return 0
  | .help => do
    IO.print (Report.unlines (CommandLine.grammar none).usage)
    return 0
  | .nothingSaid => do
    IO.eprint (Report.unlines (CommandLine.grammar none).usage)
    return 2
  | refusal => do
    IO.eprintln ("error: " ++ refusal.message)
    return 2

/-- Carries a command line out. -/
def carryOut (invocation : Invocation) : IO UInt32 := do
  if let .completions _ := invocation.command then return 0
  let directory :=
    DataDirectory.resolve (← IO.getEnv "PARLEY_DATA_DIR") (← IO.getEnv "HOME")
  try
    IO.FS.createDirAll directory
  catch _ =>
    return ← complain ("Failed to create data directory " ++ directory)
  let settingsFile ← readBytes? (DataDirectory.join directory settingsFileName)
  let settings := Settings.ofFile settingsFile
  let url := DataDirectory.databaseUrl directory settings.database
  let unopened := complain ("Failed to open database " ++ url)
  if !DataDirectory.isUnderstood url then return ← unopened
  match DataDirectory.openedPath? url with
  | none => unopened
  | some path => do
    let tables ←
      try
        openTables path
      catch _ =>
        return ← unopened
    let nanos ← nanosNow
    let random := numberOfBytes (← IO.getRandomBytes 10)
    let attachment ←
      match invocation.command.file? with
      | some file => readText? file
      | none => pure none
    let occasion : Occasion := {
      settings := settings
      now := instantOf nanos
      fresh := Uuid.ofTime (nanos / 1000000).toNat random
      attachment := attachment
      directory := directory
      savedSettings := settings
      settingsFileExists := settingsFile.isSome }
    let (outcome, after) := (invocation.perform occasion).run.run tables
    if after ≠ tables then IO.FS.writeFile path (Wire.encode after).compact
    match outcome with
    | .ok text => do
      IO.print text
      return 0
    | .error error => complain error.message

end ChatLedger.Console

open ChatLedger in
/-- The program. -/
def main (words : List String) : IO UInt32 := do
  match Invocation.read (← IO.getEnv "PARLEY_USER") words with
  | .ok invocation => Console.carryOut invocation
  | .error refusal => Console.refuse refusal
