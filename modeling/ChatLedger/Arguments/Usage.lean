import ChatLedger.Arguments.Shape

/-!
# Usage

What is said about command lines: why one is refused, and what may stand on one.
-/

namespace ChatLedger.Arguments

/-- What is said about a command line that is refused. -/
def Refusal.message : Refusal → String
  | .help | .version | .nothingSaid => ""
  | .commandMissing => "a command is missing"
  | .commandUnknown => "unknown command"
  | .argumentUnknown => "unexpected argument"
  | .argumentMissing => "an argument is missing"
  | .argumentRepeated => "an argument is given twice"
  | .valueNotAllowed => "a value is missing or not allowed"
  | .valueMalformed => "a value is malformed"
  | .valueNotWanted => "an argument takes no value"

namespace Shape

/-- The operands of a command, as the usage text shows them. -/
def operandText (shape : Shape) : String :=
  String.join (shape.operands.map fun operand =>
    if operand.required then " <" ++ operand.name ++ ">" else " [" ++ operand.name ++ "]")

/-- The flags of a command that are not among the common ones. -/
def flagText (common : List String) (shape : Shape) : String :=
  String.join ((shape.flags.filter fun flag => !common.contains flag.name).map fun flag =>
    " [--" ++ flag.name ++ "]")

/-- The usage of a program: each command on a line, with its operands and flags. -/
def usage (program : Shape) : List String :=
  let common := program.flags.map (·.name)
  let line (words : String) (shape : Shape) : String :=
    "  " ++ words ++ shape.operandText ++ shape.flagText common
  ("Usage: " ++ program.name ++ " <command>") :: program.commands.flatMap fun command =>
    if command.isGroup then
      command.commands.map fun below => line (command.name ++ " " ++ below.name) below
    else [line command.name command]

end Shape

end ChatLedger.Arguments
