import ChatLedger.Message
import ChatLedger.User

/-!
# The shape of command lines

What may stand on a command line: flags, operands and nested commands, and what their values are
read as.
-/

namespace ChatLedger.Arguments

open Time

/-- Why a command line is no command. Two of the reasons are wishes for a text about the program. -/
inductive Refusal where
  /-- The help text is asked for. -/
  | help
  /-- The version is asked for. -/
  | version
  /-- Nothing is said at all where a command is needed. -/
  | nothingSaid
  | commandMissing
  | commandUnknown
  | argumentUnknown
  | argumentMissing
  | argumentRepeated
  /-- A value is missing, or is none of the words that are allowed. -/
  | valueNotAllowed
  | valueMalformed
  /-- A value is given to a flag that takes none. -/
  | valueNotWanted
  deriving Repr, DecidableEq

/-! ## Values -/

/-- What a value is read as. -/
inductive Kind where
  | text
  | identifier
  | user
  | integer
  | count
  | number
  | role
  | status
  | time
  /-- One of a few words. -/
  | choice (words : List String)
  deriving Repr, DecidableEq

/-- A value that has been read. -/
inductive Value where
  /-- A text or one of a few words. -/
  | text (s : String)
  | identifier (id : Uuid)
  | user (user : UserId)
  | integer (n : Int)
  | count (n : UInt32)
  | number (x : Float)
  | role (role : MessageRole)
  | status (status : MessageStatus)
  | time (t : Instant)
  deriving Repr

/-- A whole number within bounds. -/
def readInteger (low high : Int) (text : String) : Except Refusal Int :=
  match Decimal.parseSigned Bounds.lowest Bounds.highest text with
  | .ok n => if low ≤ n ∧ n ≤ high then .ok n else .error .valueMalformed
  | .error _ => .error .valueMalformed

/-- What was read, or the refusal of a malformed value. -/
def orMalformed {α : Type} : Option α → Except Refusal α
  | some a => .ok a
  | none => .error .valueMalformed

/-- Reads a value. -/
def Kind.read (kind : Kind) (text : String) : Except Refusal Value :=
  match kind with
  | .text => .ok (.text text)
  | .identifier => (orMalformed (Uuid.parse? text)).map .identifier
  | .user => (orMalformed (UserId.parse text).toOption).map .user
  | .integer => (readInteger Bounds.lowest Bounds.highest text).map .integer
  | .count => (readInteger 0 Bounds.count32 text).map fun n => .count (UInt32.ofNat n.toNat)
  | .number => (orMalformed (Decimal.parseFloat? text)).map .number
  | .role => (orMalformed (Vocabulary.parse text).toOption).map .role
  | .status => (orMalformed (Vocabulary.parse text).toOption).map .status
  | .time => (orMalformed (readWire? text)).map .time
  | .choice words => if words.contains text then .ok (.text text) else .error .valueNotAllowed

/-! ## Flags, operands and commands -/

/-- What a flag does. -/
inductive Effect where
  | switch
  /-- Counts how often it is given. -/
  | counter
  | value (kind : Kind)
  | help
  | version
  deriving Repr, DecidableEq

/-- An argument that is named. -/
structure Flag where
  /-- The name behind two hyphens. -/
  name : String
  /-- The letter behind one hyphen. -/
  letter : Option Char := none
  effect : Effect
  /-- The value that the environment has for it. -/
  surrounding : Option String := none
  deriving Repr, DecidableEq

/-- An argument that is known by its place. -/
structure Operand where
  name : String
  kind : Kind
  required : Bool := true
  deriving Repr, DecidableEq

/-- A command: its flags, and then either its operands or the commands below it. -/
inductive Shape where
  | mk (name : String) (aliases : List String) (flags : List Flag) (operands : List Operand)
    (commands : List Shape)

namespace Shape

/-- The name of the command. -/
def name : Shape → String
  | mk name _ _ _ _ => name

/-- Other names of the command. -/
def aliases : Shape → List String
  | mk _ aliases _ _ _ => aliases

/-- The flags that may stand at this level. -/
def flags : Shape → List Flag
  | mk _ _ flags _ _ => flags

/-- The operands in their order. -/
def operands : Shape → List Operand
  | mk _ _ _ operands _ => operands

/-- The commands below this one. -/
def commands : Shape → List Shape
  | mk _ _ _ _ commands => commands

/-- A command that others stand below. -/
def isGroup (shape : Shape) : Bool := !shape.commands.isEmpty

/-- The command below this one that the word names. -/
def command? (shape : Shape) (word : String) : Option Shape :=
  shape.commands.find? fun below => below.name == word || below.aliases.contains word

/-- The flag of this name. -/
def flag? (shape : Shape) (name : String) : Option Flag := shape.flags.find? (·.name == name)

/-- The flag of this letter. -/
def flagOfLetter? (shape : Shape) (letter : Char) : Option Flag :=
  shape.flags.find? (·.letter == some letter)

/-- The word that asks a group for help. -/
def helpWord : String := "help"

/-- The word asks this level for help. -/
def asksForHelp (shape : Shape) (word : String) : Bool := shape.isGroup && word == helpWord

/-- What a request for help ends in, given the words behind it, which name a command. -/
def helpOn (shape : Shape) : List String → Refusal
  | [] => .help
  | word :: rest =>
    if shape.asksForHelp word then if rest.isEmpty then .help else .commandUnknown
    else
      match shape.command? word with
      | some below => below.helpOn rest
      | none => .commandUnknown

end Shape

end ChatLedger.Arguments
