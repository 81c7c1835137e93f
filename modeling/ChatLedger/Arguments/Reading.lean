import ChatLedger.Arguments.Shape

/-!
# Reading command lines

`Arguments.read` reads a command line level by level: the flags and operands of a command, then
the command below it.

1. The value of a flag or operand is looked at only when the next one comes, or at the end of its
   level. So an unknown flag is reported before a malformed value that stands before it.
2. A level is closed after the one below it. So what is wrong further down is reported first.
3. Behind a lone `--` everything is an operand.
-/

namespace ChatLedger.Arguments

/-- A flag or operand whose value has yet to be looked at. -/
structure Pending where
  name : String
  kind : Kind
  /-- What has been given for it. -/
  text : Option String
  deriving Repr, DecidableEq

/-- What has been given at one level of commands. -/
structure Level where
  /-- The values of flags and operands. -/
  values : List (String × Value) := []
  /-- The values that the environment has for flags that are not given. -/
  surrounding : List (String × Value) := []
  /-- The switches and counters, once for each time they are given. -/
  switches : List String := []
  pending : Option Pending := none
  /-- The number of operands so far. -/
  operands : Nat := 0
  /-- A lone `--` has been passed. -/
  literal : Bool := false
  deriving Repr

namespace Level

/-- A flag or operand of this name has a value. -/
def has (level : Level) (name : String) : Bool := level.values.any (·.1 == name)

/-- Nothing has been given, not even by the environment. -/
def isEmpty (level : Level) : Bool :=
  level.values.isEmpty && level.surrounding.isEmpty && level.switches.isEmpty

/-- The last flag has not been given its value. -/
def awaitsValue (level : Level) : Bool := level.pending.any (·.text.isNone)

/-- Gives a flag or operand its value, which may be missing. -/
def assign (level : Level) (name : String) (kind : Kind) (text : Option String) :
    Except Refusal Level :=
  match text with
  | none => .error .valueNotAllowed
  | some text =>
    if level.has name then .error .argumentRepeated
    else (kind.read text).map fun value => { level with values := level.values ++ [(name, value)] }

/-- Looks at the value that is pending. -/
def settle (level : Level) : Except Refusal Level :=
  match level.pending with
  | none => .ok level
  | some p => { level with pending := none }.assign p.name p.kind p.text

/-- Takes a flag, with the value that is attached to it if it takes one. -/
def take (level : Level) (flag : Flag) (attached : Option String) : Except Refusal Level := do
  let level ← level.settle
  match flag.effect with
  | .help => throw .help
  | .version => throw .version
  | .counter => return { level with switches := level.switches ++ [flag.name] }
  | .switch =>
    if level.switches.contains flag.name then throw .argumentRepeated
    return { level with switches := level.switches ++ [flag.name] }
  | .value kind =>
    match attached with
    | some _ => level.assign flag.name kind attached
    | none => return { level with pending := some ⟨flag.name, kind, none⟩ }

/-- Takes a flag by its name. -/
def takeNamed (shape : Shape) (level : Level) (name : String) (attached : Option String) :
    Except Refusal Level :=
  match shape.flag? name with
  | none => .error .argumentUnknown
  | some flag =>
    match flag.effect, attached with
    | .value _, _ | _, none => level.take flag attached
    | _, some _ => .error .valueNotWanted

/-- What is left behind the letter of a flag as its value. -/
def attachedValue : List Char → Option String
  | [] => none
  | '=' :: rest => some (String.ofList rest)
  | rest => some (String.ofList rest)

/-- Takes flags by their letters, the last of which may have its value attached. -/
def takeLetters (shape : Shape) (level : Level) : List Char → Except Refusal Level
  | [] => .ok level
  | letter :: rest =>
    match shape.flagOfLetter? letter with
    | none => .error .argumentUnknown
    | some flag =>
      match flag.effect with
      | .value _ => level.take flag (attachedValue rest)
      | _ => do (← level.take flag none).takeLetters shape rest

/-- What is wrong with an operand that has no place. -/
def surplus (shape : Shape) (level : Level) (text : String) : Refusal :=
  if level.literal && (shape.asksForHelp text || (shape.command? text).isSome) then .argumentUnknown
  else if shape.isGroup then .commandUnknown
  else .argumentUnknown

/-- Takes an operand. -/
def takeOperand (shape : Shape) (level : Level) (text : String) : Except Refusal Level :=
  match shape.operands[level.operands]? with
  | none => .error (level.surplus shape text)
  | some operand => do
    let level ← level.settle
    return { level with
      pending := some ⟨operand.name, operand.kind, some text⟩
      operands := level.operands + 1 }

/-- Takes what is neither a flag nor a command: the value that the last flag awaits, or an
operand. -/
def takePlain (shape : Shape) (level : Level) (text : String) : Except Refusal Level :=
  match level.pending with
  | some ⟨name, kind, none⟩ => .ok { level with pending := some ⟨name, kind, some text⟩ }
  | _ => level.takeOperand shape text

/-- Takes the value that the environment has for a flag that is not given. -/
def takeSurrounding (level : Level) (flag : Flag) : Except Refusal Level :=
  match flag.effect, flag.surrounding with
  | .value kind, some text =>
    if level.has flag.name then .ok level
    else (kind.read text).map fun value =>
      { level with surrounding := level.surrounding ++ [(flag.name, value)] }
  | _, _ => .ok level

/-- Closes a level, above the given command if there is one. -/
def close (shape : Shape) (level : Level) (below : Option Shape) : Except Refusal Level := do
  let level ← level.settle
  let level ← shape.flags.foldlM takeSurrounding level
  if shape.isGroup && below.isNone then
    throw (if level.isEmpty then .nothingSaid else .commandMissing)
  if shape.operands.any fun operand => operand.required && !level.has operand.name then
    throw .argumentMissing
  return level

end Level

/-! ## Words -/

/-- What a word on the command line looks like. -/
inductive Word where
  | separator
  | named (name : String) (attached : Option String)
  | letters (letters : List Char)
  | plain
  deriving Repr, DecidableEq

/-- What the word looks like. A lone hyphen is a plain word. -/
def Word.of (text : String) : Word :=
  match text.toList with
  | ['-', '-'] => .separator
  | '-' :: '-' :: rest =>
    let (name, behind) := rest.span (· != '=')
    .named (String.ofList name) (behind.tail?.map String.ofList)
  | ['-'] => .plain
  | '-' :: rest => .letters rest
  | _ => .plain

/-! ## Levels -/

/-- Reads the words of a level and of those below it; answers with the names of the commands and
what has been given at each, the outermost first. -/
def readLevels (shape : Shape) (level : Level) :
    List String → Except Refusal (List (String × Level))
  | [] => do return [(shape.name, ← level.close shape none)]
  | text :: rest =>
    if level.literal then do readLevels shape (← level.takeOperand shape text) rest
    else if !level.awaitsValue && shape.asksForHelp text then .error (shape.helpOn rest)
    else
      match if level.awaitsValue then none else shape.command? text with
      | some below => do
        let inner ← readLevels below {} rest
        return (shape.name, ← level.close shape (some below)) :: inner
      | none =>
        match Word.of text with
        | .separator => readLevels shape { level with literal := true } rest
        | .named name attached => do readLevels shape (← level.takeNamed shape name attached) rest
        | .letters letters => do readLevels shape (← level.takeLetters shape letters) rest
        | .plain => do readLevels shape (← level.takePlain shape text) rest

/-- Reads a command line. -/
def read (shape : Shape) (words : List String) : Except Refusal (List (String × Level)) :=
  readLevels shape {} words

end ChatLedger.Arguments
