import ChatLedger.Article
import ChatLedger.Error
import ChatLedger.Message
import ChatLedger.Session
import ChatLedger.Subscription

/-!
# Rows

What the store keeps of each record, column by column, and how records are read back.

1. Words, identifiers and times are kept as texts, so that a row may hold what no record has:
   reading it back may fail, and says why.
2. Counts are kept as integers of 64 bits with a sign, by their bits.
3. Amounts lose the sign of zero, and what is not a number is kept as nothing.
-/

namespace ChatLedger.Store

open Time

/-! ## Columns -/

/-- The integer with the same 64 bits. -/
def signed (n : UInt64) : Int := (n.toNat : Int).bmod 18446744073709551616

/-- What a column of amounts keeps, if anything. -/
def storedAmount? (x : Float) : Option Float :=
  if x.isNaN then none else if x == 0.0 then some 0.0 else some x

/-- What a column of amounts keeps of a number. -/
def storedAmount (x : Float) : Float := (storedAmount? x).getD 0.0

/-- Reads a time column. -/
def readTime (text : String) : Except StoreError Instant :=
  (readStored text).mapError fun fault => .query ("invalid datetime: " ++ fault.message)

/-- Reads a column of words. -/
def readWord {α : Type} [Vocabulary α] (text : String) : Except StoreError α :=
  (Vocabulary.parse text).mapError .query

/-- Reads a column of identifiers. -/
def readId (what text : String) : Except StoreError Uuid :=
  (Uuid.parse text).mapError fun fault => .query ("invalid " ++ what ++ ": " ++ fault.message)

/-! ## Sessions and messages -/

/-- A row of the table of sessions. -/
structure SessionRow where
  row : Nat
  id : String
  owner : Int
  topic : String
  model : String
  channel : Int
  messageCount : Int
  tokenCount : Int
  totalCost : Float
  status : String
  createdAt : String
  updatedAt : String
  lastMessageAt : Option String
  deriving Repr, DecidableEq

namespace SessionRow

/-- The row that keeps a session. -/
def ofSession (row : Nat) (s : Session) : SessionRow where
  row := row
  id := s.id.text
  owner := s.owner.number
  topic := s.topic
  model := s.model
  channel := s.channel
  messageCount := s.messageCount.toNat
  tokenCount := signed s.tokenCount
  totalCost := storedAmount s.totalCost
  status := Vocabulary.word s.status
  createdAt := s.createdAt.storedText
  updatedAt := s.updatedAt.storedText
  lastMessageAt := s.lastMessageAt.map Instant.storedText

/-- The session that a row keeps. -/
def session (r : SessionRow) : Except StoreError Session := do
  let id ← readId "session id" r.id
  let status ← readWord r.status
  let last ← r.lastMessageAt.mapM readTime
  return {
    id := id
    owner := ⟨r.owner⟩
    topic := r.topic
    model := r.model
    channel := r.channel
    messageCount := UInt32.ofInt r.messageCount
    tokenCount := UInt64.ofInt r.tokenCount
    totalCost := r.totalCost
    status := status
    createdAt := ← readTime r.createdAt
    updatedAt := ← readTime r.updatedAt
    lastMessageAt := last }

/-- The session has not been deleted. -/
def isLive (r : SessionRow) : Bool := r.status != Vocabulary.word SessionStatus.deleted

/-- The row keeps the session of this identifier. -/
def has (r : SessionRow) (id : Uuid) : Bool := r.id == id.text

/-- The row with another topic. -/
def setTopic (r : SessionRow) (topic : String) (now : Instant) : SessionRow :=
  { r with topic := topic, updatedAt := now.storedText }

/-- The row with another status. -/
def setStatus (r : SessionRow) (status : SessionStatus) (now : Instant) : SessionRow :=
  { r with status := Vocabulary.word status, updatedAt := now.storedText }

end SessionRow

/-- A row of the table of messages. -/
structure MessageRow where
  row : Nat
  id : String
  session : String
  role : String
  content : String
  tokens : Int
  cost : Float
  status : String
  errorText : Option String
  state : String
  createdAt : String
  updatedAt : String
  deriving Repr, DecidableEq

namespace MessageRow

/-- The row that keeps a message. -/
def ofMessage (row : Nat) (m : Message) : MessageRow where
  row := row
  id := m.id.text
  session := m.session.text
  role := Vocabulary.word m.role
  content := m.content
  tokens := m.tokens.toNat
  cost := storedAmount m.cost
  status := Vocabulary.word m.status
  errorText := m.errorText
  state := Vocabulary.word RecordState.live
  createdAt := m.createdAt.storedText
  updatedAt := m.updatedAt.storedText

/-- The message that a row keeps. -/
def message (r : MessageRow) : Except StoreError Message := do
  let id ← readId "message id" r.id
  let session ← readId "session_id" r.session
  let role ← readWord r.role
  let status ← readWord r.status
  return {
    id := id
    session := session
    role := role
    content := r.content
    tokens := UInt32.ofInt r.tokens
    cost := r.cost
    status := status
    errorText := r.errorText
    createdAt := ← readTime r.createdAt
    updatedAt := ← readTime r.updatedAt }

/-- The message itself has not been deleted. -/
def isLive (r : MessageRow) : Bool := r.state == Vocabulary.word RecordState.live

/-- The row keeps the message of this identifier. -/
def has (r : MessageRow) (id : Uuid) : Bool := r.id == id.text

/-- The row of the message once it is deleted. -/
def delete (r : MessageRow) (now : Instant) : MessageRow :=
  { r with state := Vocabulary.word RecordState.deleted, updatedAt := now.storedText }

/-- The row with the new values of an update. A row that ends up `normal` keeps no error text. -/
def update (r : MessageRow) (u : MessageUpdate) (now : Instant) : MessageRow :=
  let status := (u.status.map Vocabulary.word).getD r.status
  { r with
    content := u.content.getD r.content
    tokens := (u.tokens.map fun n => (n.toNat : Int)).getD r.tokens
    cost := (u.cost.bind storedAmount?).getD r.cost
    status := status
    errorText :=
      if status = Vocabulary.word MessageStatus.normal then none else u.errorText <|> r.errorText
    updatedAt := now.storedText }

end MessageRow

/-! ## Subscriptions, links and articles -/

/-- A row of the table of subscriptions. -/
structure SubscriptionRow where
  row : Nat
  creator : Int
  topic : String
  description : String
  status : String
  createdAt : String
  updatedAt : String
  deriving Repr, DecidableEq

namespace SubscriptionRow

/-- The subscription that a row keeps. -/
def subscription (r : SubscriptionRow) : Except StoreError Subscription := do
  let status ← readWord r.status
  return {
    id := r.row
    creator := ⟨r.creator⟩
    topic := r.topic
    description := r.description
    status := status
    createdAt := ← readTime r.createdAt
    updatedAt := ← readTime r.updatedAt }

/-- The subscription is open. -/
def isActive (r : SubscriptionRow) : Bool := r.status == Vocabulary.word SubscriptionStatus.active

/-- The row keeps the subscription of this number. -/
def has (r : SubscriptionRow) (id : Int) : Bool := (r.row : Int) == id

/-- The row with another description. -/
def describe (r : SubscriptionRow) (description : String) (now : Instant) : SubscriptionRow :=
  { r with description := description, updatedAt := now.storedText }

/-- The row of the subscription once it is deleted. -/
def cancel (r : SubscriptionRow) (now : Instant) : SubscriptionRow :=
  { r with
    status := Vocabulary.word SubscriptionStatus.cancelled
    updatedAt := now.storedText }

end SubscriptionRow

/-- A row of the table of links. -/
structure LinkRow where
  row : Nat
  user : Int
  subscription : Int
  status : String
  createdAt : String
  updatedAt : String
  deriving Repr, DecidableEq

namespace LinkRow

/-- The link that a row keeps. -/
def link (r : LinkRow) : Except StoreError Link := do
  let status ← readWord r.status
  return {
    id := r.row
    user := ⟨r.user⟩
    subscription := r.subscription
    status := status
    createdAt := ← readTime r.createdAt
    updatedAt := ← readTime r.updatedAt }

/-- The link is active. -/
def isActive (r : LinkRow) : Bool := r.status == Vocabulary.word LinkStatus.active

/-- The row with another status. -/
def setStatus (r : LinkRow) (status : LinkStatus) (now : Instant) : LinkRow :=
  { r with status := Vocabulary.word status, updatedAt := now.storedText }

/-- The row links the user to the subscription. -/
def joins (r : LinkRow) (user : UserId) (subscription : Int) : Bool :=
  r.user == user.number && r.subscription == subscription

end LinkRow

/-- A row of the table of articles. -/
structure ArticleRow where
  row : Nat
  subscription : Int
  title : String
  summary : String
  content : String
  author : String
  publishedAt : Option String
  url : String
  keyPoints : String
  journal : String
  readCount : Int
  citationCount : Int
  rating : Float
  state : String
  createdAt : String
  updatedAt : String
  deriving Repr, DecidableEq

namespace ArticleRow

/-- The row that keeps a new article. -/
def ofNew (row : Nat) (subscription : Int) (a : NewArticle) (now : Instant) : ArticleRow where
  row := row
  subscription := subscription
  title := a.title
  summary := a.summary
  content := a.content
  author := a.author
  publishedAt := a.publishedAt.map Instant.storedText
  url := a.url
  keyPoints := a.keyPoints
  journal := a.journal
  readCount := 0
  citationCount := a.citationCount.toNat
  rating := storedAmount a.rating
  state := Vocabulary.word RecordState.live
  createdAt := now.storedText
  updatedAt := now.storedText

/-- The article that a row keeps. -/
def article (r : ArticleRow) : Except StoreError Article := do
  let published ← r.publishedAt.mapM readTime
  return {
    id := r.row
    subscription := r.subscription
    title := r.title
    summary := r.summary
    content := r.content
    author := r.author
    publishedAt := published
    url := r.url
    keyPoints := r.keyPoints
    journal := r.journal
    readCount := UInt32.ofInt r.readCount
    citationCount := UInt32.ofInt r.citationCount
    rating := r.rating
    createdAt := ← readTime r.createdAt
    updatedAt := ← readTime r.updatedAt }

/-- The article has not been deleted. -/
def isLive (r : ArticleRow) : Bool := r.state == Vocabulary.word RecordState.live

/-- The row of the article once it is deleted. -/
def delete (r : ArticleRow) (now : Instant) : ArticleRow :=
  { r with state := Vocabulary.word RecordState.deleted, updatedAt := now.storedText }

end ArticleRow

end ChatLedger.Store
