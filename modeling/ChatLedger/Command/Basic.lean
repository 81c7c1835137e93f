import ChatLedger.Article
import ChatLedger.Message
import ChatLedger.Session

/-!
# Commands

What can be asked of the program on its command line.
-/

namespace ChatLedger

/-- Which page of a list is asked for. -/
structure PageChoice where
  page : Option UInt32 := none
  size : Option UInt32 := none
  deriving Repr, DecidableEq

/-- What can be done with sessions. -/
inductive SessionCommand where
  | create (input : NewSession)
  | inspect (id : Uuid)
  | rename (id : Uuid) (topic : String)
  | finish (id : Uuid)
  | delete (id : Uuid) (force : Bool)
  | deleteAll (force : Bool)
  | list (page : PageChoice)
  | search (keyword : String) (page : PageChoice)
  | recompute (id : Uuid)
  | usage
  deriving Repr, DecidableEq

/-- What can be done with messages. -/
inductive MessageCommand where
  | add (session : Uuid) (input : NewMessage)
  | inspect (id : Uuid)
  | edit (id : Uuid) (update : MessageUpdate)
  | delete (id : Uuid) (force : Bool)
  | list (session : Uuid) (page : PageChoice)
  | listAll (page : PageChoice)
  | search (keyword : String) (page : PageChoice)
  | recent (limit : UInt32)
  | errors (page : PageChoice)
  /-- Figures over one session, or over all of them. -/
  | stats (session : Option Uuid)
  deriving Repr, DecidableEq

/-- What can be done with subscriptions. -/
inductive SubscriptionCommand where
  | subscribe (topic description : String)
  | cancel (id : Int)
  | reactivate (id : Int)
  | describe (id : Int) (description : String)
  | delete (id : Int) (force : Bool)
  | list (page : PageChoice)
  /-- The articles of one subscription, or of all of them. -/
  | articles (id : Option Int) (page : PageChoice)
  deriving Repr, DecidableEq

/-- What can be done with articles. -/
inductive ArticleCommand where
  /-- The content may name a file instead. -/
  | add (subscription : Int) (input : NewArticle)
  | delete (id : Int)
  deriving Repr, DecidableEq

/-- What can be done with the settings. -/
inductive SettingsCommand where
  | print
  | paths
  deriving Repr, DecidableEq

/-- What can be asked of the program. -/
inductive Command where
  | session (command : SessionCommand)
  | message (command : MessageCommand)
  | subscription (command : SubscriptionCommand)
  | article (command : ArticleCommand)
  | settings (command : SettingsCommand)
  | stats
  /-- A script that completes command lines in the given shell. -/
  | completions (shell : String)
  deriving Repr, DecidableEq

/-- A command line: a command and how to carry it out. -/
structure Invocation where
  command : Command
  /-- Who asks, if it is said. -/
  user : Option UserId := none
  /-- The answer is to be a document. -/
  json : Bool := false
  quiet : Bool := false
  verbosity : Nat := 0
  deriving Repr, DecidableEq

/-! ## Files as content -/

/-- The path of the file that a content names, if it names one. -/
def contentPath? (content : String) : Option String :=
  match content.toList with
  | '@' :: path => some (String.ofList path)
  | _ => none

/-- The path of the file that has to be read to carry the command out. -/
def Command.file? : Command → Option String
  | .article (.add _ input) => contentPath? input.content
  | _ => none

end ChatLedger
