import ChatLedger.Text.Blank

/-!
# Diagnostics

How much the program says about itself while it runs.
-/

namespace ChatLedger.Diagnostics

/-- What is logged at a level of verbosity. Quiet counts only where nothing else is asked for. -/
def filter (verbosity : Nat) (quiet : Bool) : String :=
  match verbosity with
  | 0 => if quiet then "error" else "warn"
  | 1 => "info,parley=debug"
  | _ => "trace"

/-- The words that switch the export of spans on. -/
def yesWords : List String := ["1", "true", "yes"]

/-- Spans are exported, because the settings or the environment ask for it. -/
def exportsSpans (configured : Bool) (environment : Option String) : Bool :=
  configured || environment.any fun value =>
    yesWords.contains (String.ofList ((Text.trim value).toList.map Char.toLower))

end ChatLedger.Diagnostics
