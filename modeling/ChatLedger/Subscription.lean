import ChatLedger.User
import ChatLedger.Vocabulary

/-!
# Subscriptions

A subscription is one shared record per topic, and a link makes one user a member of it.

1. The status of a link and the status of its subscription are independent of each other.
2. A user is effectively a member when both are active.
-/

namespace ChatLedger

open Time

/-- Whether a subscription is open or has been deleted. -/
inductive SubscriptionStatus where
  | active
  | cancelled
  deriving Repr, DecidableEq, Inhabited

instance : Vocabulary SubscriptionStatus where
  kind := "subscription status"
  values := [.active, .cancelled]
  word
    | .active => "active"
    | .cancelled => "cancelled"

/-- Whether a user is a member or has left. -/
inductive LinkStatus where
  | active
  | cancelled
  deriving Repr, DecidableEq, Inhabited

instance : Vocabulary LinkStatus where
  kind := "link status"
  values := [.active, .cancelled]
  word
    | .active => "active"
    | .cancelled => "cancelled"

/-- A topic that users can subscribe to. -/
structure Subscription where
  id : Int
  /-- The user whose call created the record, and the only one who may describe it. -/
  creator : UserId
  topic : String
  description : String
  status : SubscriptionStatus
  createdAt : Instant
  updatedAt : Instant
  deriving Repr, DecidableEq

instance : Wire Subscription where
  encode s := .record [
    ("id", Wire.encode s.id),
    ("creator_id", Wire.encode s.creator),
    ("topic_name", Wire.encode s.topic),
    ("description", Wire.encode s.description),
    ("status", Wire.encode s.status),
    ("created_at", Wire.encode s.createdAt),
    ("updated_at", Wire.encode s.updatedAt)]
  decode v := do
    let [id, creator, topic, description, status, created, updated] ←
        v.slots? ["id", "creator_id", "topic_name", "description", "status", "created_at",
          "updated_at"]
      | none
    return {
      id := ← id.required
      creator := ← creator.required
      topic := ← topic.required
      description := ← description.required
      status := ← status.required
      createdAt := ← created.required
      updatedAt := ← updated.required }

/-- The one record that links a user to a subscription. -/
structure Link where
  id : Int
  user : UserId
  subscription : Int
  status : LinkStatus
  createdAt : Instant
  updatedAt : Instant
  deriving Repr, DecidableEq

instance : Wire Link where
  encode l := .record [
    ("id", Wire.encode l.id),
    ("user_id", Wire.encode l.user),
    ("subscription_id", Wire.encode l.subscription),
    ("status", Wire.encode l.status),
    ("created_at", Wire.encode l.createdAt),
    ("updated_at", Wire.encode l.updatedAt)]
  decode v := do
    let [id, user, subscription, status, created, updated] ←
        v.slots? ["id", "user_id", "subscription_id", "status", "created_at", "updated_at"]
      | none
    return {
      id := ← id.required
      user := ← user.required
      subscription := ← subscription.required
      status := ← status.required
      createdAt := ← created.required
      updatedAt := ← updated.required }

/-- What the first subscriber of a topic says. -/
structure NewSubscription where
  creator : UserId
  topic : String
  description : String
  deriving Repr, DecidableEq

instance : Wire NewSubscription where
  encode s := .record [
    ("creator_id", Wire.encode s.creator),
    ("topic_name", Wire.encode s.topic),
    ("description", Wire.encode s.description)]
  decode v := do
    let [creator, topic, description] ← v.slots? ["creator_id", "topic_name", "description"] | none
    return {
      creator := ← creator.required
      topic := ← topic.required
      description := ← description.required }

/-- An entry in a user's list of subscriptions. -/
structure SubscriptionView where
  subscription : Subscription
  link : Link
  /-- The number of live articles. -/
  articles : UInt64
  deriving Repr, DecidableEq

instance : Wire SubscriptionView where
  encode v := .record [
    ("subscription", Wire.encode v.subscription),
    ("link", Wire.encode v.link),
    ("article_count", Wire.encode v.articles)]
  decode v := do
    let [subscription, link, articles] ← v.slots? ["subscription", "link", "article_count"] | none
    return {
      subscription := ← subscription.required
      link := ← link.required
      articles := ← articles.required }

/-! ## Answers -/

/-- How a user came to be a member. -/
inductive SubscribeOutcome where
  /-- A subscription and its first link were created. -/
  | created
  /-- A link to an existing subscription was added. -/
  | joined
  /-- The link was active already. -/
  | alreadyActive
  /-- A cancelled link was made active. -/
  | reactivated
  deriving Repr, DecidableEq, Inhabited

instance : Vocabulary SubscribeOutcome where
  kind := "subscribe outcome"
  values := [.created, .joined, .alreadyActive, .reactivated]
  word
    | .created => "created"
    | .joined => "joined"
    | .alreadyActive => "already_active"
    | .reactivated => "reactivated"

/-- The answer to a subscribe call. -/
structure SubscribeResult where
  subscription : Int
  outcome : SubscribeOutcome
  deriving Repr, DecidableEq

instance : Wire SubscribeResult where
  encode r := .record [
    ("subscription_id", Wire.encode r.subscription),
    ("outcome", Wire.encode r.outcome)]
  decode v := do
    let [subscription, outcome] ← v.slots? ["subscription_id", "outcome"] | none
    return { subscription := ← subscription.required, outcome := ← outcome.required }

/-- The answer to a call that cancels or reactivates a membership. -/
structure MembershipChange where
  subscription : Int
  previous : LinkStatus
  current : LinkStatus
  deriving Repr, DecidableEq

/-- The call made a difference. -/
def MembershipChange.changed (c : MembershipChange) : Bool := c.previous != c.current

instance : Wire MembershipChange where
  encode c := .record [
    ("subscription_id", Wire.encode c.subscription),
    ("previous", Wire.encode c.previous),
    ("current", Wire.encode c.current)]
  decode v := do
    let [subscription, previous, current] ←
        v.slots? ["subscription_id", "previous", "current"]
      | none
    return {
      subscription := ← subscription.required
      previous := ← previous.required
      current := ← current.required }

end ChatLedger
