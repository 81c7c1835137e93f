import ChatLedger.Arguments.Reading
import ChatLedger.Command.Basic

/-!
# The command line

`CommandLine.grammar` is the shape of the program's command lines, and `Invocation.read` reads one.
-/

namespace ChatLedger

open Arguments

/-! ## Shape -/

namespace CommandLine

/-- Flags that may stand at every level. The environment may name the user. -/
def commonFlags (userVariable : Option String) : List Flag := [
  ⟨"json", none, .switch, none⟩,
  ⟨"quiet", none, .switch, none⟩,
  ⟨"verbose", some 'v', .counter, none⟩,
  ⟨"user", some 'u', .value .user, userVariable⟩,
  ⟨"help", some 'h', .help, none⟩,
  ⟨"version", some 'V', .version, none⟩]

/-- A flag with a value. -/
def valueFlag (name : String) (kind : Kind) : Flag := ⟨name, none, .value kind, none⟩

/-- The flag that skips the confirmation. -/
def forceFlag : Flag := ⟨"force", none, .switch, none⟩

/-- The flags that choose a page. -/
def pageFlags : List Flag := [valueFlag "page" .count, valueFlag "page-size" .count]

/-- The shells that completions can be made for. -/
def shells : List String := ["bash", "elvish", "fish", "powershell", "zsh"]

section

variable (common : List Flag)

/-- A command that stands at the end of a command line. -/
def leaf (name : String) (aliases : List String) (operands : List Operand) (flags : List Flag) :
    Shape :=
  .mk name aliases (flags ++ common) operands []

/-- A command that others stand below. -/
def group (name : String) (aliases : List String) (commands : List Shape) : Shape :=
  .mk name aliases common [] commands

/-- The commands on sessions. -/
def sessionShape : Shape :=
  group common "session" ["sessions"] [
    leaf common "create" [] [⟨"topic", .text, true⟩]
      [valueFlag "model" .text, valueFlag "channel" .integer],
    leaf common "show" [] [⟨"id", .identifier, true⟩] [],
    leaf common "topic" [] [⟨"id", .identifier, true⟩, ⟨"topic", .text, true⟩] [],
    leaf common "end" [] [⟨"id", .identifier, true⟩] [],
    leaf common "delete" ["rm"] [⟨"id", .identifier, true⟩] [forceFlag],
    leaf common "delete-all" ["purge"] [] [forceFlag],
    leaf common "list" ["ls"] [] pageFlags,
    leaf common "search" [] [⟨"keyword", .text, true⟩] pageFlags,
    leaf common "recompute" [] [⟨"id", .identifier, true⟩] [],
    leaf common "usage" [] [] []]

/-- The commands on messages. -/
def messageShape : Shape :=
  group common "message" ["msg"] [
    leaf common "add" [] [⟨"session", .identifier, true⟩, ⟨"content", .text, true⟩]
      [valueFlag "role" .role, valueFlag "tokens" .count, valueFlag "cost" .number,
        valueFlag "error" .text],
    leaf common "show" [] [⟨"id", .identifier, true⟩] [],
    leaf common "edit" [] [⟨"id", .identifier, true⟩]
      [valueFlag "content" .text, valueFlag "tokens" .count, valueFlag "cost" .number,
        valueFlag "status" .status, valueFlag "error" .text],
    leaf common "delete" ["rm"] [⟨"id", .identifier, true⟩] [forceFlag],
    leaf common "list" ["ls"] [⟨"session", .identifier, true⟩] pageFlags,
    leaf common "all" [] [] pageFlags,
    leaf common "search" [] [⟨"keyword", .text, true⟩] pageFlags,
    leaf common "recent" [] [] [valueFlag "limit" .count],
    leaf common "errors" [] [] pageFlags,
    leaf common "stats" [] [] [valueFlag "session" .identifier]]

/-- The commands on subscriptions. -/
def subscriptionShape : Shape :=
  group common "sub" ["subscription"] [
    leaf common "subscribe" [] [⟨"topic", .text, true⟩] [valueFlag "description" .text],
    leaf common "cancel" [] [⟨"id", .integer, true⟩] [],
    leaf common "reactivate" [] [⟨"id", .integer, true⟩] [],
    leaf common "describe" [] [⟨"id", .integer, true⟩, ⟨"description", .text, true⟩] [],
    leaf common "delete" ["rm"] [⟨"id", .integer, true⟩] [forceFlag],
    leaf common "list" ["ls"] [] pageFlags,
    leaf common "articles" [] [⟨"id", .integer, false⟩] pageFlags]

/-- The commands on articles. -/
def articleShape : Shape :=
  group common "article" [] [
    leaf common "add" [] [⟨"subscription", .integer, true⟩, ⟨"title", .text, true⟩]
      [valueFlag "summary" .text, valueFlag "content" .text, valueFlag "author" .text,
        valueFlag "published" .time, valueFlag "url" .text, valueFlag "key-points" .text,
        valueFlag "journal" .text, valueFlag "citations" .count, valueFlag "rating" .number],
    leaf common "delete" ["rm"] [⟨"id", .integer, true⟩] []]

/-- All commands. -/
def programShape : Shape :=
  group common "parley" [] [
    sessionShape common,
    messageShape common,
    subscriptionShape common,
    articleShape common,
    group common "config" [] [leaf common "show" [] [] [], leaf common "path" [] [] []],
    leaf common "stats" [] [] [],
    leaf common "completions" [] [⟨"shell", .choice shells, true⟩] []]

end

/-- The shape of the program's command lines. -/
def grammar (userVariable : Option String) : Shape := programShape (commonFlags userVariable)

end CommandLine

/-! ## Values by their names -/

namespace Arguments.Level

/-- The text given under the name. -/
def text? (level : Level) (name : String) : Option String :=
  match level.values.lookup name with
  | some (.text s) => some s
  | _ => none

/-- The identifier given under the name. -/
def identifier? (level : Level) (name : String) : Option Uuid :=
  match level.values.lookup name with
  | some (.identifier id) => some id
  | _ => none

/-- The whole number given under the name. -/
def integer? (level : Level) (name : String) : Option Int :=
  match level.values.lookup name with
  | some (.integer n) => some n
  | _ => none

/-- The count given under the name. -/
def count? (level : Level) (name : String) : Option UInt32 :=
  match level.values.lookup name with
  | some (.count n) => some n
  | _ => none

/-- The number given under the name. -/
def number? (level : Level) (name : String) : Option Float :=
  match level.values.lookup name with
  | some (.number x) => some x
  | _ => none

/-- The role given under the name. -/
def role? (level : Level) (name : String) : Option MessageRole :=
  match level.values.lookup name with
  | some (.role role) => some role
  | _ => none

/-- The status given under the name. -/
def status? (level : Level) (name : String) : Option MessageStatus :=
  match level.values.lookup name with
  | some (.status status) => some status
  | _ => none

/-- The time given under the name. -/
def time? (level : Level) (name : String) : Option Time.Instant :=
  match level.values.lookup name with
  | some (.time t) => some t
  | _ => none

/-- The user among the values. -/
def userAmong (values : List (String × Value)) : Option UserId :=
  match values.lookup "user" with
  | some (.user user) => some user
  | _ => none

/-- The switch is on. -/
def isOn (level : Level) (name : String) : Bool := level.switches.contains name

/-- The page that is asked for. -/
def pageChoice (level : Level) : PageChoice := ⟨level.count? "page", level.count? "page-size"⟩

end Arguments.Level

/-! ## Commands by their names -/

/-- The command on sessions of this name. -/
def SessionCommand.ofLevel? (name : String) (level : Level) : Option SessionCommand :=
  match name with
  | "create" => do
    return .create ⟨← level.text? "topic", level.text? "model", level.integer? "channel"⟩
  | "show" => (level.identifier? "id").map .inspect
  | "topic" => do return .rename (← level.identifier? "id") (← level.text? "topic")
  | "end" => (level.identifier? "id").map .finish
  | "delete" => do return .delete (← level.identifier? "id") (level.isOn "force")
  | "delete-all" => some (.deleteAll (level.isOn "force"))
  | "list" => some (.list level.pageChoice)
  | "search" => do return .search (← level.text? "keyword") level.pageChoice
  | "recompute" => (level.identifier? "id").map .recompute
  | "usage" => some .usage
  | _ => none

/-- The new message of the flags. One with an error text did not come through. -/
def messageInput (level : Level) (content : String) : NewMessage :=
  let plain := NewMessage.plain ((level.role? "role").getD .user) content
    ((level.count? "tokens").getD 0) ((level.number? "cost").getD 0.0)
  match level.text? "error" with
  | some text => { plain with status := .error, errorText := some text }
  | none => plain

/-- The command on messages of this name. -/
def MessageCommand.ofLevel? (name : String) (level : Level) : Option MessageCommand :=
  match name with
  | "add" => do
    return .add (← level.identifier? "session") (messageInput level (← level.text? "content"))
  | "show" => (level.identifier? "id").map .inspect
  | "edit" => do
    return .edit (← level.identifier? "id") {
      content := level.text? "content"
      tokens := level.count? "tokens"
      cost := level.number? "cost"
      status := level.status? "status"
      errorText := level.text? "error" }
  | "delete" => do return .delete (← level.identifier? "id") (level.isOn "force")
  | "list" => do return .list (← level.identifier? "session") level.pageChoice
  | "all" => some (.listAll level.pageChoice)
  | "search" => do return .search (← level.text? "keyword") level.pageChoice
  | "recent" => some (.recent ((level.count? "limit").getD 10))
  | "errors" => some (.errors level.pageChoice)
  | "stats" => some (.stats (level.identifier? "session"))
  | _ => none

/-- The command on subscriptions of this name. -/
def SubscriptionCommand.ofLevel? (name : String) (level : Level) : Option SubscriptionCommand :=
  match name with
  | "subscribe" => do
    return .subscribe (← level.text? "topic") ((level.text? "description").getD "")
  | "cancel" => (level.integer? "id").map .cancel
  | "reactivate" => (level.integer? "id").map .reactivate
  | "describe" => do return .describe (← level.integer? "id") (← level.text? "description")
  | "delete" => do return .delete (← level.integer? "id") (level.isOn "force")
  | "list" => some (.list level.pageChoice)
  | "articles" => some (.articles (level.integer? "id") level.pageChoice)
  | _ => none

/-- The command on articles of this name. -/
def ArticleCommand.ofLevel? (name : String) (level : Level) : Option ArticleCommand :=
  match name with
  | "add" => do
    return .add (← level.integer? "subscription") {
      title := ← level.text? "title"
      summary := (level.text? "summary").getD ""
      content := (level.text? "content").getD ""
      author := (level.text? "author").getD ""
      publishedAt := level.time? "published"
      url := (level.text? "url").getD ""
      keyPoints := (level.text? "key-points").getD ""
      journal := (level.text? "journal").getD ""
      citationCount := (level.count? "citations").getD 0
      rating := (level.number? "rating").getD 0.0 }
  | "delete" => (level.integer? "id").map .delete
  | _ => none

/-- The command on the settings of this name. -/
def SettingsCommand.ofName? : String → Option SettingsCommand
  | "show" => some .print
  | "path" => some .paths
  | _ => none

/-- The command that the levels below the program name. -/
def Command.ofLevels? : List (String × Level) → Option Command
  | [("session", _), (name, level)] => (SessionCommand.ofLevel? name level).map .session
  | [("message", _), (name, level)] => (MessageCommand.ofLevel? name level).map .message
  | [("sub", _), (name, level)] => (SubscriptionCommand.ofLevel? name level).map .subscription
  | [("article", _), (name, level)] => (ArticleCommand.ofLevel? name level).map .article
  | [("config", _), (name, _)] => (SettingsCommand.ofName? name).map .settings
  | [("stats", _)] => some .stats
  | [("completions", level)] => (level.text? "shell").map .completions
  | _ => none

/-- The user that the levels name: the innermost one given, else that of the environment. -/
def userOf (levels : List Level) : Option UserId :=
  (levels.reverse.findSome? fun level => Level.userAmong level.values) <|>
    levels.findSome? fun level => Level.userAmong level.surrounding

/-- How often the innermost level that asks for more detail does so. -/
def verbosityOf (levels : List Level) : Nat :=
  ((levels.reverse.map fun level => level.switches.count "verbose").find? (0 < ·)).getD 0

namespace Invocation

/-- What the levels of a command line ask for. -/
def ofLevels? (levels : List (String × Level)) : Option Invocation := do
  let given := levels.map (·.2)
  return {
    command := ← Command.ofLevels? levels.tail
    user := userOf given
    json := given.any (·.isOn "json")
    quiet := given.any (·.isOn "quiet")
    verbosity := verbosityOf given }

/-- Reads a command line. -/
def read (userVariable : Option String) (words : List String) : Except Refusal Invocation := do
  match ofLevels? (← Arguments.read (CommandLine.grammar userVariable) words) with
  | some invocation => return invocation
  | none => throw .argumentMissing

end Invocation

end ChatLedger
