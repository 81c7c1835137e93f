import ChatLedger.Store.Subscriptions

/-!
# Store calls

Everything that the services ask of the store, each call a single atomic step.

1. `Request.Answer` is the type of what a call answers.
2. `Request.perform` carries a call out. A call that fails leaves the tables as they were, with one
   exception: an update of a message may take effect although the new row cannot be read back.
3. `Request.access` says which side of the store a call needs: changes go through the writer, all
   other calls through the reader.
-/

namespace ChatLedger.Store

open Time

/-- A store call. -/
inductive Request where
  | createSession (session : Session)
  | getSession (id : Uuid)
  | updateSessionTopic (id : Uuid) (topic : String) (now : Instant)
  | setSessionStatus (id : Uuid) (status : SessionStatus) (now : Instant)
  | deleteSession (id : Uuid) (now : Instant)
  | deleteUserSessions (user : UserId) (now : Instant)
  | listSessions (user : UserId) (page : PageRequest)
  | searchSessions (user : UserId) (keyword : String) (page : PageRequest)
  | sessionStats (user : UserId)
  | modelUsage (user : UserId)
  | refreshRollup (session : Uuid) (now : Instant)
  | insertMessage (message : Message)
  | getMessage (id : Uuid)
  | updateMessage (id : Uuid) (update : MessageUpdate) (now : Instant)
  | deleteMessage (id : Uuid) (now : Instant)
  | listSessionMessages (session : Uuid) (page : PageRequest)
  | listUserMessages (user : UserId) (page : PageRequest)
  | searchUserMessages (user : UserId) (keyword : String) (page : PageRequest)
  | errorMessages (user : UserId) (page : PageRequest)
  | recentMessages (user : UserId) (limit : UInt32)
  | sessionMessageStats (session : Uuid)
  | userMessageStats (user : UserId)
  | findActiveByTopic (topic : String)
  | getSubscription (id : Int)
  | findLink (user : UserId) (subscription : Int)
  | createSubscription (input : NewSubscription) (now : Instant)
  | insertLink (user : UserId) (subscription : Int) (now : Instant)
  | changeLink (id : Int) (expected wanted : LinkStatus) (now : Instant)
  | updateDescription (id : Int) (description : String) (now : Instant)
  | cancelSubscription (id : Int) (now : Instant)
  | listSubscriptions (user : UserId) (page : PageRequest)
  | listArticles (subscription : Int) (page : PageRequest)
  | listUserArticles (user : UserId) (page : PageRequest)
  | insertArticle (subscription : Int) (article : NewArticle) (now : Instant)
  | deleteArticle (id : Int) (now : Instant)
  deriving Repr

namespace Request

/-- What a call answers. -/
@[reducible] def Answer : Request → Type
  | createSession .. | updateSessionTopic .. | setSessionStatus .. | insertMessage ..
  | deleteMessage .. | updateDescription .. => Unit
  | getSession .. => Option Session
  | deleteSession .. => UInt64
  | deleteUserSessions .. => SessionsDeleted
  | listSessions .. | searchSessions .. => List Session × UInt64
  | sessionStats .. => SessionStats
  | modelUsage .. => List ModelUsage
  | refreshRollup .. => Option Rollup
  | getMessage .. => Option Message
  | updateMessage .. => Message
  | listSessionMessages .. | listUserMessages .. | searchUserMessages .. | errorMessages .. =>
    List Message × UInt64
  | recentMessages .. => List Message
  | sessionMessageStats .. | userMessageStats .. => MessageStats
  | findActiveByTopic .. | getSubscription .. => Option Subscription
  | findLink .. => Option Link
  | createSubscription .. => Subscription × Link
  | insertLink .. => Link
  | changeLink .. | cancelSubscription .. | deleteArticle .. => Bool
  | listSubscriptions .. => List SubscriptionView × UInt64
  | listArticles .. | listUserArticles .. => List Article × UInt64
  | insertArticle .. => Article

/-- A side of the store. -/
inductive Access where
  | reader
  | writer
  deriving Repr, DecidableEq

/-- The side of the store that a call needs. -/
def access : Request → Access
  | createSession .. | updateSessionTopic .. | setSessionStatus .. | deleteSession ..
  | deleteUserSessions .. | refreshRollup .. | insertMessage .. | updateMessage ..
  | deleteMessage .. | createSubscription .. | insertLink .. | changeLink ..
  | updateDescription .. | cancelSubscription .. | insertArticle .. | deleteArticle .. => .writer
  | _ => .reader

/-! ## Carrying calls out -/

/-- The outcome of a change. -/
def settle {α : Type} (change : Change α) (t : Tables) : Except StoreError α × Tables :=
  match change t with
  | .ok (answer, changed) => (.ok answer, changed)
  | .error e => (.error e, t)

/-- The outcome of a change whose answer is a row that is read back after the change. -/
def settleRow {Row α : Type} (change : Change Row) (read : Row → Except StoreError α) (t : Tables) :
    Except StoreError α × Tables :=
  match change t with
  | .ok (row, changed) => (read row, changed)
  | .error e => (.error e, t)

/-- Carries a call out on the tables. -/
def perform : (r : Request) → Tables → Except StoreError r.Answer × Tables
  | createSession session, t => settle (Tables.insertSession session) t
  | getSession id, t => ((t.session? id).mapM (·.session), t)
  | updateSessionTopic id topic now, t => settle (Tables.setTopic id topic now) t
  | setSessionStatus id status now, t => settle (Tables.setStatus id status now) t
  | deleteSession id now, t => settle (Tables.deleteSession id now) t
  | deleteUserSessions user now, t => settle (Tables.deleteSessionsOf user now) t
  | listSessions user request, t =>
    (page (Tables.newestSessions (t.sessionsOf user)) request (·.session), t)
  | searchSessions user keyword request, t =>
    (page (Tables.newestSessions ((t.sessionsOf user).filter fun s =>
      Text.matchesKeyword keyword s.topic)) request (·.session), t)
  | sessionStats user, t => (t.sessionStats user, t)
  | modelUsage user, t => (t.modelUsage user, t)
  | refreshRollup session now, t => settle (Tables.refreshRollup session now) t
  | insertMessage message, t => settle (Tables.insertMessage message) t
  | getMessage id, t =>
    (((t.messagesWhere fun _ => true).find? (·.has id)).mapM (·.message), t)
  | updateMessage id update now, t => settleRow (Tables.updateMessage id update now) (·.message) t
  | deleteMessage id now, t => settle (Tables.deleteMessage id now) t
  | listSessionMessages session request, t => (page (t.messagesIn session) request (·.message), t)
  | listUserMessages user request, t =>
    (page (Tables.newestMessages (t.messagesOf user)) request (·.message), t)
  | searchUserMessages user keyword request, t =>
    (page (Tables.newestMessages ((t.messagesOf user).filter fun m =>
      Text.matchesKeyword keyword m.content)) request (·.message), t)
  | errorMessages user request, t =>
    (page (Tables.newestMessages ((t.messagesOf user).filter fun m =>
      m.status == Vocabulary.word MessageStatus.error)) request (·.message), t)
  | recentMessages user limit, t =>
    (((Tables.newestMessages (t.messagesOf user)).take limit.toNat).mapM (·.message), t)
  | sessionMessageStats session, t => (t.sessionMessageStats session, t)
  | userMessageStats user, t => (t.userMessageStats user, t)
  | findActiveByTopic topic, t => ((t.subscriptionOn? topic).mapM (·.subscription), t)
  | getSubscription id, t => ((t.subscriptions.find? (·.has id)).mapM (·.subscription), t)
  | findLink user subscription, t =>
    ((t.links.find? (·.joins user subscription)).mapM (·.link), t)
  | createSubscription input now, t => settle (Tables.insertSubscription input now) t
  | insertLink user subscription now, t => settle (Tables.insertLink user subscription now) t
  | changeLink id expected wanted now, t => settle (Tables.changeLink id expected wanted now) t
  | updateDescription id description now, t => settle (Tables.describe id description now) t
  | cancelSubscription id now, t => settle (Tables.cancelSubscription id now) t
  | listSubscriptions user request, t => (page (t.membershipsOf user) request t.view, t)
  | listArticles subscription request, t =>
    (page (t.articlesOn subscription) request (·.article), t)
  | listUserArticles user request, t => (page (t.articlesFor user) request (·.article), t)
  | insertArticle subscription article now, t =>
    settle (Tables.insertArticle subscription article now) t
  | deleteArticle id now, t => settle (Tables.deleteArticle id now) t

end Request

end ChatLedger.Store
