import ChatLedger.Command.Basic
import ChatLedger.Command.Report
import ChatLedger.DataDirectory
import ChatLedger.Service.Articles
import ChatLedger.Service.Messages
import ChatLedger.SettingsFile

/-!
# Carrying commands out

A command becomes a program over the store that ends in a report or in an error.

1. What a command does to the store never depends on how its report is written, except that a
   deletion needs a confirmation unless it is forced or reported as a document.
2. There is nobody to confirm anything: a confirmation that is needed fails, before the store is
   changed.
-/

namespace ChatLedger

open Store Time

/-- Why a command fails. -/
inductive CommandError where
  | service (error : ServiceError)
  | userMissing
  | nothingToChange
  /-- A confirmation is needed. -/
  | noTerminal
  | fileUnreadable (path : String)
  deriving Repr, DecidableEq

/-- The text of an error. -/
def CommandError.message : CommandError → String
  | .service error => error.message
  | .userMissing => "this command needs a user: pass --user <ID> or set PARLEY_USER"
  | .nothingToChange =>
    "nothing to change: pass at least one of --content, --tokens, --cost, --status, --error"
  | .noTerminal => "IO error: not a terminal"
  | .fileUnreadable path => "Failed to read article content from " ++ path

/-- What surrounds a command while it is carried out. -/
structure Occasion where
  /-- The settings that the services were started with. -/
  settings : Settings
  now : Clock
  /-- An identifier that nothing has yet. -/
  fresh : Uuid
  /-- The text of the file that the command names, if it can be read. -/
  attachment : Option String := none
  directory : String
  /-- The settings that the settings file holds by now. -/
  savedSettings : Settings := {}
  settingsFileExists : Bool := false

/-- A program over the store that ends in a value or in the error of a command. -/
abbrev Errand (α : Type) := ExceptT CommandError Program α

namespace Errand

/-- An operation of a service as part of an errand. -/
def call {α : Type} (operation : Operation α) : Errand α := ExceptT.mk do
  return (← operation.run).mapError .service

/-- Fails. -/
def fail {α : Type} (error : CommandError) : Errand α := ExceptT.mk (pure (.error error))

/-- The user, who has to be known. -/
def user (user : Option UserId) : Errand UserId :=
  match user with
  | some user => pure user
  | none => fail .userMissing

/-- Goes on only if no confirmation is needed. -/
def confirm (granted : Bool) : Errand Unit := if granted then pure () else fail .noTerminal

end Errand

open Errand

/-- Carries a command on sessions out; `json` says how the report will be written. -/
def SessionCommand.perform (o : Occasion) (user : UserId) (json : Bool) :
    SessionCommand → Errand Report
  | .create input => do
    return .sessionCreated (← call (Sessions.create o.settings user input (o.now 0) o.fresh))
  | .inspect id => do return .sessionDetail (← call (Sessions.owned user id))
  | .rename id topic => do
    return .sessionRenamed (← call (Sessions.updateTopic user id topic (o.now 0)))
  | .finish id => do return .sessionFinished (← call (Sessions.finish user id (o.now 0)))
  | .delete id force => do
    let session ← call (Sessions.owned user id)
    confirm (force || json)
    return .sessionDeleted session (← call (Sessions.delete user id (o.now 0)))
  | .deleteAll force => do
    confirm (force || json)
    return .sessionsDeleted (← call (Sessions.deleteAll user (o.now 0)))
  | .list page => do
    return .sessions (← call (Sessions.list o.settings user page.page page.size))
      "No sessions yet. Start one with: parley session create <TOPIC>"
  | .search keyword page => do
    return .sessions (← call (Sessions.search o.settings user keyword page.page page.size))
      ("No sessions match '" ++ keyword ++ "'.")
  | .recompute id => do return .rollup (← call (Sessions.recompute user id (o.now 0)))
  | .usage => do return .usage (← call (Sessions.usage user))

/-- Carries a command on messages out; `json` says how the report will be written. -/
def MessageCommand.perform (o : Occasion) (user : UserId) (json : Bool) :
    MessageCommand → Errand Report
  | .add session input => do
    return .messageAdded (← call (Messages.create o.settings user session input o.now o.fresh))
  | .inspect id => do return .messageDetail (← call (Messages.owned user id))
  | .edit id update =>
    if update.isEmpty then fail .nothingToChange
    else do return .messageEdited (← call (Messages.update o.settings user id update o.now))
  | .delete id force => do
    let _ ← call (Messages.owned user id)
    confirm (force || json)
    return .messageDeleted id (← call (Messages.delete user id o.now))
  | .list session page => do
    return .messages (← call (Messages.list o.settings user session page.page page.size))
      "This session has no messages."
  | .listAll page => do
    return .messages (← call (Messages.listAll o.settings user page.page page.size))
      "No messages yet."
  | .search keyword page => do
    return .messages (← call (Messages.search o.settings user keyword page.page page.size))
      ("No messages match '" ++ keyword ++ "'.")
  | .recent limit => do return .recentMessages (← call (Messages.recent user limit))
  | .errors page => do
    return .messages (← call (Messages.errors o.settings user page.page page.size))
      "No failed messages."
  | .stats (some session) => do return .messageStats (← call (Messages.statsIn user session))
  | .stats none => do return .messageStats (← call (Messages.stats user))

/-- Carries a command on subscriptions out. Only deleting one needs no user. -/
def SubscriptionCommand.perform (o : Occasion) (user : Option UserId) (json : Bool) :
    SubscriptionCommand → Errand Report
  | .subscribe topic description => do
    let user ← Errand.user user
    return .subscribed topic
      (← call (Memberships.subscribe o.settings user topic description o.now))
  | .cancel id => do
    let user ← Errand.user user
    return .membershipCancelled (← call (Memberships.cancel o.settings user id o.now))
  | .reactivate id => do
    let user ← Errand.user user
    return .membershipReactivated (← call (Memberships.reactivate o.settings user id o.now))
  | .describe id description => do
    let user ← Errand.user user
    return .subscriptionDescribed (← call (Memberships.describe user id description (o.now 0)))
  | .delete id force => do
    confirm (force || json)
    return .subscriptionDeleted (← call (Memberships.delete id (o.now 0)))
  | .list page => do
    let user ← Errand.user user
    return .subscriptions (← call (Memberships.list o.settings user page.page page.size))
  | .articles (some id) page => do
    let user ← Errand.user user
    return .articles (← call (Articles.list o.settings user id page.page page.size))
  | .articles none page => do
    let user ← Errand.user user
    return .articles (← call (Articles.listAll o.settings user page.page page.size))

/-- The content of an article, which a file may hold. -/
def Occasion.content (o : Occasion) (content : String) : Except CommandError String :=
  match contentPath? content, o.attachment with
  | none, _ => .ok content
  | some _, some text => .ok text
  | some path, none => .error (.fileUnreadable path)

/-- Carries a command on articles out. -/
def ArticleCommand.perform (o : Occasion) : ArticleCommand → Errand Report
  | .add subscription input => do
    let content ← ExceptT.mk (pure (o.content input.content))
    let input := { input with content := content }
    return .articleAdded (← call (Articles.create subscription input (o.now 0)))
  | .delete id => do
    call (Articles.delete id (o.now 0))
    return .articleDeleted id

/-- Carries a command on the settings out. -/
def SettingsCommand.perform (o : Occasion) : SettingsCommand → Report
  | .print =>
    .settings (DataDirectory.join o.directory settingsFileName) o.settingsFileExists
      o.savedSettings
  | .paths => .paths o.directory (DataDirectory.join o.directory settingsFileName)

/-- The figures of a user over everything. -/
def overview (o : Occasion) (user : UserId) : Errand Report := do
  let sessions ← call (Sessions.stats user)
  let messages ← call (Messages.stats user)
  let subscriptions ← call (Memberships.list o.settings user (some 1) (some 1))
  return .overview user sessions messages subscriptions.total

/-- Carries a command out; `json` says how the report will be written. -/
def Command.perform (o : Occasion) (user : Option UserId) (json : Bool) : Command → Errand Report
  | .session command => do command.perform o (← Errand.user user) json
  | .message command => do command.perform o (← Errand.user user) json
  | .subscription command => command.perform o user json
  | .article command => command.perform o
  | .settings command => pure (command.perform o)
  | .stats => do overview o (← Errand.user user)
  | .completions _ => pure .nothing

/-- Carries a command line out; answers with what the program writes. -/
def Invocation.perform (o : Occasion) (i : Invocation) : Errand String := do
  return (← i.command.perform o i.user i.json).render i.json

end ChatLedger
