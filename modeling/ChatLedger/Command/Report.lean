import ChatLedger.Decimal.Layout
import ChatLedger.Json.Printer
import ChatLedger.Paging
import ChatLedger.Rollup
import ChatLedger.Settings
import ChatLedger.Statistics
import ChatLedger.Subscription
import ChatLedger.Article
import ChatLedger.Message
import ChatLedger.Terminal.Table
import ChatLedger.Time.Shown
import ChatLedger.Toml.Printer

/-!
# Reports

What a command that was carried out has to say, and the two ways of saying it.

1. `Report.lines` says it in lines of text.
2. `Report.document` says it as a document. Records keep the order of their fields; objects made
   for the occasion have their members sorted by name.
-/

namespace ChatLedger

/-- What a command has to say. -/
inductive Report where
  | sessionCreated (session : Session)
  | sessionDetail (session : Session)
  | sessionRenamed (session : Session)
  | sessionFinished (session : Session)
  /-- The session as it was, and the number of messages that went with it. -/
  | sessionDeleted (session : Session) (messages : UInt64)
  | sessionsDeleted (deleted : SessionsDeleted)
  /-- A page of sessions, and what to say if it is empty. -/
  | sessions (page : Page Session) (whenEmpty : String)
  | rollup (outcome : RollupOutcome)
  | usage (rows : List ModelUsage)
  | messageAdded (added : Refreshed Message)
  | messageDetail (message : Message)
  | messageEdited (edited : Refreshed Message)
  | messageDeleted (id : Uuid) (deleted : Refreshed Uuid)
  /-- A page of messages, and what to say if it is empty. -/
  | messages (page : Page Message) (whenEmpty : String)
  | recentMessages (messages : List Message)
  | messageStats (stats : MessageStats)
  | subscribed (topic : String) (result : SubscribeResult)
  | membershipCancelled (change : MembershipChange)
  | membershipReactivated (change : MembershipChange)
  | subscriptionDescribed (subscription : Subscription)
  | subscriptionDeleted (subscription : Subscription)
  | subscriptions (page : Page SubscriptionView)
  | articles (page : Page Article)
  | articleAdded (article : Article)
  | articleDeleted (id : Int)
  | overview (user : UserId) (sessions : SessionStats) (messages : MessageStats)
      (subscriptions : UInt64)
  | settings (path : String) (fileExists : Bool) (settings : Settings)
  | paths (directory file : String)
  | nothing

namespace Report

/-! ## Pieces of text -/

/-- An amount of money. -/
def cost (x : Float) : String := "$" ++ Decimal.fixedPlaces 4 x

/-- A mean, with one place. -/
def mean (x : Float) : String := Decimal.fixedPlaces 1 x

/-- The ending of a noun for this many things. -/
def plural (n : UInt64) : String := if n = 1 then "" else "s"

/-- A count. -/
def count (n : UInt64) : String := toString n.toNat

/-- Lines between two empty ones. -/
def apart (lines : List String) : List String := "" :: lines ++ [""]

/-- A note that something has been done. -/
def done (text : String) : List String := apart ["  ok " ++ text]

/-- A note that there is nothing to show or to do. -/
def note (text : String) : List String := apart ["  i " ++ text]

/-- What stands under a table of one page. -/
def footer {α : Type} (page : Page α) (noun : String) : List String :=
  apart ["  " ++ count page.total ++ " " ++ noun ++ plural page.total ++ " total, page " ++
    toString page.page.toNat ++ " of " ++ toString (max page.totalPages.toNat 1)]

/-- The warning that the figures of a session are behind. -/
def warning (outcome : RollupOutcome) : List String :=
  match outcome.warning? with
  | some reason => ["  ! Session totals could not be refreshed: " ++ reason, ""]
  | none => []

/-- The lines of a text, without the line breaks and the carriage returns before them. -/
def contentLines (text : String) : List String :=
  let pieces := text.splitOn "\n"
  let ended := pieces.dropLast.map fun piece =>
    if piece.endsWith "\r" then (piece.dropEnd 1).toString else piece
  match pieces.getLast? with
  | none | some "" => ended
  | some last => ended ++ [last]

/-! ## Tables -/

/-- Sessions as a table. -/
def sessionTable (sessions : List Session) : Terminal.Table where
  headings := ["Id", "Topic", "Model", "Messages", "Tokens", "Cost", "Status", "Created"]
  rows := sessions.map fun s => [
    s.id.text, Text.truncate s.topic 40, s.model, toString s.messageCount.toNat,
    count s.tokenCount, cost s.totalCost, Vocabulary.word s.status, s.createdAt.shownMinute]

/-- Messages as a table. -/
def messageTable (messages : List Message) : Terminal.Table where
  headings := ["Id", "Role", "Content", "Tokens", "Cost", "Status", "Created"]
  rows := messages.map fun m => [
    m.id.text, Vocabulary.word m.role, Text.truncate m.content 50, toString m.tokens.toNat,
    cost m.cost, Vocabulary.word m.status, m.createdAt.shownMinute]

/-- Figures for each model as a table. -/
def usageTable (rows : List ModelUsage) : Terminal.Table where
  headings := ["Model", "Sessions", "Messages", "Tokens", "Cost"]
  rows := rows.map fun u => [
    u.model, count u.sessions, count u.messages, count u.tokens, cost u.cost]

/-- Subscriptions as a table. -/
def subscriptionTable (views : List SubscriptionView) : Terminal.Table where
  headings := ["Id", "Topic", "Description", "Articles", "Since"]
  rows := views.map fun v => [
    toString v.subscription.id, v.subscription.topic, Text.truncate v.subscription.description 40,
    count v.articles, v.link.createdAt.shownDate]

/-- Articles as a table. -/
def articleTable (articles : List Article) : Terminal.Table where
  headings := ["Id", "Title", "Author", "Journal", "Published", "Rating"]
  rows := articles.map fun a => [
    toString a.id, Text.truncate a.title 50, Text.truncate a.author 24,
    Text.truncate a.journal 24, (a.publishedAt.map Time.Instant.shownDate).getD "-", mean a.rating]

/-- A page as a table with its footer, or a note if it is empty. -/
def pageLines {α : Type} (page : Page α) (noun whenEmpty : String)
    (table : List α → Terminal.Table) : List String :=
  if page.items.isEmpty then note whenEmpty
  else "" :: (table page.items).lines ++ footer page noun

/-! ## Details -/

/-- All about a session. -/
def sessionLines (s : Session) : List String :=
  ["", "  " ++ s.topic] ++ apart [
    "  id:           " ++ s.id.text,
    "  status:       " ++ Vocabulary.word s.status,
    "  model:        " ++ s.model,
    "  channel:      " ++ toString s.channel,
    "  messages:     " ++ toString s.messageCount.toNat,
    "  tokens:       " ++ count s.tokenCount,
    "  cost:         " ++ cost s.totalCost,
    "  created:      " ++ s.createdAt.shownSecond,
    "  last message: " ++ (s.lastMessageAt.map Time.Instant.shownSecond).getD "never"]

/-- All about a message. -/
def messageLines (m : Message) : List String :=
  ["",
    "  " ++ Vocabulary.word m.role ++ " " ++ m.id.text,
    "  session: " ++ m.session.text,
    "  tokens:  " ++ toString m.tokens.toNat ++ "   cost: " ++ cost m.cost,
    "  status:  " ++ Vocabulary.word m.status] ++
  (m.errorText.map ("  error:   " ++ ·)).toList ++
  ["  created: " ++ m.createdAt.shownSecond] ++
  apart ((contentLines m.content).map ("  " ++ ·))

/-- Figures over messages. -/
def messageStatsLines (s : MessageStats) : List String :=
  ["", "  Message statistics"] ++ apart [
    "  total:      " ++ count s.messages,
    "  user:       " ++ count s.userMessages,
    "  assistant:  " ++ count s.assistantMessages,
    "  system:     " ++ count s.systemMessages,
    "  tokens:     " ++ count s.tokens,
    "  cost:       " ++ cost s.cost,
    "  avg tokens: " ++ mean s.tokensPerMessage]

/-- The figures of a user. -/
def overviewLines (user : UserId) (s : SessionStats) (m : MessageStats) (subscriptions : UInt64) :
    List String :=
  ["", "  Parley user " ++ toString user] ++ apart [
    "  Sessions:      " ++ count s.sessions ++ " (" ++ count s.activeSessions ++ " active)",
    "  Messages:      " ++ count m.messages ++ " (user " ++ count m.userMessages ++
      ", assistant " ++ count m.assistantMessages ++ ", system " ++ count m.systemMessages ++ ")",
    "  Tokens:        " ++ count s.tokens,
    "  Cost:          " ++ cost s.cost,
    "  Avg/session:   " ++ mean s.messagesPerSession ++ " messages",
    "  Subscriptions: " ++ count subscriptions]

/-- What has become of a roll-up. -/
def rollupLines : RollupOutcome → List String
  | .fresh r =>
    done (toString r.messageCount.toNat ++ " messages, " ++ count r.tokenCount ++ " tokens, " ++
      cost r.totalCost)
  | .stale reason => apart ["  ! Totals left unchanged: " ++ reason]

/-- How a user came to be a member. -/
def subscribedVerb : SubscribeOutcome → String
  | .created => "Created and subscribed to"
  | .joined => "Subscribed to"
  | .alreadyActive => "Already subscribed to"
  | .reactivated => "Resubscribed to"

/-- What a change of membership came to. -/
def changeLines (change : MembershipChange) (verb unchanged : String) : List String :=
  if change.changed then
    done (verb ++ " membership in subscription " ++ toString change.subscription)
  else note (unchanged ++ ": subscription " ++ toString change.subscription)

/-! ## Reports -/

/-- The report in lines. -/
def lines : Report → List String
  | sessionCreated s =>
    ["", "  ok Created session '" ++ s.topic ++ "'", "  id:    " ++ s.id.text,
      "  model: " ++ s.model, ""]
  | sessionDetail s => sessionLines s
  | sessionRenamed s => done ("Topic set to '" ++ s.topic ++ "'")
  | sessionFinished s => done ("Session '" ++ s.topic ++ "' ended")
  | sessionDeleted s n =>
    done ("Deleted session '" ++ s.topic ++ "' and " ++ count n ++ " message" ++ plural n)
  | sessionsDeleted d =>
    done ("Deleted " ++ count d.sessions ++ " session" ++ plural d.sessions ++ " and " ++
      count d.messages ++ " message" ++ plural d.messages)
  | sessions page whenEmpty => pageLines page "session" whenEmpty sessionTable
  | rollup outcome => rollupLines outcome
  | usage rows =>
    if rows.isEmpty then note "No usage recorded yet." else apart (usageTable rows).lines
  | messageAdded r =>
    done ("Added " ++ Vocabulary.word r.value.role ++ " message " ++ r.value.id.text) ++
      warning r.rollup
  | messageDetail m => messageLines m
  | messageEdited r => done ("Updated message " ++ r.value.id.text) ++ warning r.rollup
  | messageDeleted id r => done ("Deleted message " ++ id.text) ++ warning r.rollup
  | messages page whenEmpty => pageLines page "message" whenEmpty messageTable
  | recentMessages items =>
    if items.isEmpty then note "No messages yet." else apart (messageTable items).lines
  | messageStats s => messageStatsLines s
  | subscribed topic r =>
    done (subscribedVerb r.outcome ++ " '" ++ topic ++ "' (id " ++ toString r.subscription ++ ")")
  | membershipCancelled c => changeLines c "Cancelled" "Already cancelled"
  | membershipReactivated c => changeLines c "Reactivated" "Already active"
  | subscriptionDescribed s => done ("Description of '" ++ s.topic ++ "' updated")
  | subscriptionDeleted s => done ("Deleted subscription '" ++ s.topic ++ "'")
  | subscriptions page =>
    pageLines page "subscription"
      "No active subscriptions. Subscribe with: parley sub subscribe <TOPIC>" subscriptionTable
  | articles page => pageLines page "article" "No articles." articleTable
  | articleAdded a => done ("Added article '" ++ a.title ++ "' (id " ++ toString a.id ++ ")")
  | articleDeleted id => done ("Deleted article " ++ toString id)
  | overview user s m n => overviewLines user s m n
  | settings path _ s => apart ["  # " ++ path] ++ [Toml.sections (Wire.encode s)]
  | paths directory file => ["data dir: " ++ directory, "config:   " ++ file]
  | nothing => []

/-- The report as a document, unless there is nothing to report. -/
def document : Report → Option Json
  | sessionCreated s | sessionDetail s | sessionRenamed s | sessionFinished s =>
    some (Wire.encode s)
  | sessionDeleted s n =>
    some (Json.sorted (.record [
      ("session_id", Wire.encode s.id),
      ("deleted", .bool true),
      ("messages_removed", Wire.encode n)]))
  | sessionsDeleted d => some (Wire.encode d)
  | sessions page _ => some (Wire.encode page)
  | rollup outcome => some (Wire.encode outcome)
  | usage rows => some (Wire.encode rows)
  | messageAdded r | messageEdited r => some (Wire.encode r)
  | messageDetail m => some (Wire.encode m)
  | messageDeleted id r =>
    some (Json.sorted (.record [
      ("message_id", Wire.encode id),
      ("session_id", Wire.encode r.value),
      ("deleted", .bool true),
      ("aggregate", Wire.encode r.rollup)]))
  | messages page _ => some (Wire.encode page)
  | recentMessages items => some (Wire.encode items)
  | messageStats s => some (Wire.encode s)
  | subscribed _ r => some (Wire.encode r)
  | membershipCancelled c | membershipReactivated c => some (Wire.encode c)
  | subscriptionDescribed s | subscriptionDeleted s => some (Wire.encode s)
  | subscriptions page => some (Wire.encode page)
  | articles page => some (Wire.encode page)
  | articleAdded a => some (Wire.encode a)
  | articleDeleted id =>
    some (Json.sorted (.record [("article_id", Wire.encode id), ("deleted", .bool true)]))
  | overview user s m n =>
    some (Json.sorted (.record [
      ("user_id", Wire.encode user),
      ("sessions", Wire.encode s),
      ("messages", Wire.encode m),
      ("subscriptions", Wire.encode n)]))
  | settings path fileExists s =>
    some (Json.sorted (.record [
      ("path", .text path),
      ("exists", .bool fileExists),
      ("config", Wire.encode s)]))
  | paths directory file =>
    some (Json.sorted (.record [("data_dir", .text directory), ("config", .text file)]))
  | nothing => none

/-- Lines as one text. -/
def unlines (lines : List String) : String := String.join (lines.map (· ++ "\n"))

/-- What the program writes. -/
def render (report : Report) (json : Bool) : String :=
  if json then unlines (report.document.map Json.pretty).toList else unlines report.lines

end Report

end ChatLedger
