import ChatLedger.Store.Chat
import ChatLedger.Validation

/-!
# Changes to subscriptions, links and articles

1. A topic has at most one active subscription, and a user at most one link to a subscription.
   A writer that comes second is told of a conflict.
2. The first link of a subscription is added in the same change as the subscription itself.
3. The status of a link is changed only from the status that the caller has seen.
-/

namespace ChatLedger.Store.Tables

open Time

/-! ## Subscriptions and links -/

/-- The row of a new link. -/
def linkRow (row : Nat) (user : UserId) (subscription : Int) (now : Instant) : LinkRow where
  row := row
  user := user.number
  subscription := subscription
  status := Vocabulary.word LinkStatus.active
  createdAt := now.storedText
  updatedAt := now.storedText

/-- The record of a new link. -/
def newLink (row : Nat) (user : UserId) (subscription : Int) (now : Instant) : Link where
  id := row
  user := user
  subscription := subscription
  status := .active
  createdAt := now
  updatedAt := now

/-- Adds a link, active. -/
def insertLink (user : UserId) (subscription : Int) (now : Instant) : Change Link := fun t => do
  requireUnique (t.links.any fun l => l.joins user subscription)
    "UNIQUE constraint failed: user_subscriptions.user_id, user_subscriptions.subscription_id"
  requireReference (t.subscriptions.any fun s => s.has subscription)
  let row := nextRow t.links
  return (newLink row user subscription now,
    { t with links := t.links ++ [linkRow row user subscription now] })

/-- Adds a subscription, active, with the link of its creator. -/
def insertSubscription (s : NewSubscription) (now : Instant) : Change (Subscription × Link) :=
  fun t => do
    requireUnique (t.subscriptions.any fun r => r.topic == s.topic && r.isActive)
      "UNIQUE constraint failed: subscriptions.topic_name"
    let row := nextRow t.subscriptions
    let added : SubscriptionRow :=
      { row := row
        creator := s.creator.number
        topic := s.topic
        description := s.description
        status := Vocabulary.word SubscriptionStatus.active
        createdAt := now.storedText
        updatedAt := now.storedText }
    let (link, t) ← insertLink s.creator row now
      { t with subscriptions := t.subscriptions ++ [added] }
    let subscription : Subscription :=
      { id := row
        creator := s.creator
        topic := s.topic
        description := s.description
        status := .active
        createdAt := now
        updatedAt := now }
    return ((subscription, link), t)

/-- Changes the status of a link, unless it is another one than expected. -/
def changeLink (id : Int) (expected wanted : LinkStatus) (now : Instant) : Change Bool := fun t =>
  let hit (r : LinkRow) := (r.row : Int) == id && r.status == Vocabulary.word expected
  .ok (t.links.any hit,
    { t with links := changeWhere hit (·.setStatus wanted now) t.links })

/-- Sets the description of an active subscription. -/
def describe (id : Int) (description : String) (now : Instant) : Change Unit := fun t =>
  let hit (r : SubscriptionRow) := r.has id && r.isActive
  if t.subscriptions.any hit then
    .ok ((),
      { t with subscriptions := changeWhere hit (·.describe description now) t.subscriptions })
  else .error .notFound

/-- Deletes a subscription, and says whether it was active before. -/
def cancelSubscription (id : Int) (now : Instant) : Change Bool := fun t =>
  let hit (r : SubscriptionRow) := r.has id && r.isActive
  .ok (t.subscriptions.any hit,
    { t with subscriptions := changeWhere hit (·.cancel now) t.subscriptions })

/-- The active subscription of a topic. -/
def subscriptionOn? (t : Tables) (topic : String) : Option SubscriptionRow :=
  t.subscriptions.find? fun s => s.topic == topic && s.isActive

/-- The view of a membership. -/
def view (t : Tables) (pair : LinkRow × SubscriptionRow) : Except StoreError SubscriptionView := do
  return {
    subscription := ← pair.2.subscription
    link := ← pair.1.link
    articles := countWhere (fun a => a.isLive && a.subscription == pair.1.subscription) t.articles }

/-! ## Articles -/

/-- The record of a new article. -/
def newArticle (row : Nat) (subscription : Int) (a : NewArticle) (now : Instant) : Article where
  id := row
  subscription := subscription
  title := a.title
  summary := a.summary
  content := a.content
  author := a.author
  publishedAt := a.publishedAt
  url := a.url
  keyPoints := a.keyPoints
  journal := a.journal
  readCount := 0
  citationCount := a.citationCount
  rating := a.rating
  createdAt := now
  updatedAt := now

/-- Adds an article. -/
def insertArticle (subscription : Int) (a : NewArticle) (now : Instant) : Change Article :=
  fun t => do
    requireAmount a.rating "subscription_articles.rating"
    if !(0.0 ≤ a.rating && a.rating ≤ Limit.articleRating) then
      throw (.query "CHECK constraint failed: rating >= 0 AND rating <= 10")
    requireReference (t.subscriptions.any fun s => s.has subscription)
    let row := nextRow t.articles
    return (newArticle row subscription a now,
      { t with articles := t.articles ++ [.ofNew row subscription a now] })

/-- Deletes an article, and says whether it was there before. -/
def deleteArticle (id : Int) (now : Instant) : Change Bool := fun t =>
  let hit (r : ArticleRow) := (r.row : Int) == id && r.isLive
  .ok (t.articles.any hit,
    { t with articles := changeWhere hit (·.delete now) t.articles })

/-- The articles of a subscription. -/
def articlesOn (t : Tables) (subscription : Int) : List ArticleRow :=
  t.articlesWhere (· == subscription)

/-- The articles of all effective memberships of a user. -/
def articlesFor (t : Tables) (user : UserId) : List ArticleRow :=
  t.articlesWhere fun subscription =>
    (t.membershipsOf user).any fun pair => pair.1.subscription == subscription

end ChatLedger.Store.Tables
