import ChatLedger.User
import ChatLedger.Vocabulary

/-!
# Chat sessions

A session belongs to one user and carries three roll-up figures, derived from its live messages.
-/

namespace ChatLedger

open Time

/-- Where a session stands in its life. -/
inductive SessionStatus where
  | active
  | ended
  | deleted
  deriving Repr, DecidableEq, Inhabited

instance : Vocabulary SessionStatus where
  kind := "session status"
  values := [.active, .ended, .deleted]
  word
    | .active => "active"
    | .ended => "ended"
    | .deleted => "deleted"

/-- A chat session. -/
structure Session where
  id : Uuid
  owner : UserId
  topic : String
  model : String
  channel : Int
  messageCount : UInt32
  tokenCount : UInt64
  totalCost : Float
  status : SessionStatus
  createdAt : Instant
  updatedAt : Instant
  /-- When the roll-up was last computed; none before the first message. -/
  lastMessageAt : Option Instant
  deriving Repr, DecidableEq

instance : Wire Session where
  encode s := .record [
    ("id", Wire.encode s.id),
    ("user_id", Wire.encode s.owner),
    ("topic", Wire.encode s.topic),
    ("model", Wire.encode s.model),
    ("channel_id", Wire.encode s.channel),
    ("message_count", Wire.encode s.messageCount),
    ("token_count", Wire.encode s.tokenCount),
    ("total_cost", Wire.encode s.totalCost),
    ("status", Wire.encode s.status),
    ("created_at", Wire.encode s.createdAt),
    ("updated_at", Wire.encode s.updatedAt),
    ("last_message_at", Wire.encode s.lastMessageAt)]
  decode v := do
    let [id, owner, topic, model, channel, messages, tokens, cost, status, created, updated, last] ←
        v.slots? ["id", "user_id", "topic", "model", "channel_id", "message_count", "token_count",
          "total_cost", "status", "created_at", "updated_at", "last_message_at"]
      | none
    return {
      id := ← id.required
      owner := ← owner.required
      topic := ← topic.required
      model := ← model.required
      channel := ← channel.required
      messageCount := ← messages.required
      tokenCount := ← tokens.required
      totalCost := ← cost.required
      status := ← status.required
      createdAt := ← created.required
      updatedAt := ← updated.required
      lastMessageAt := ← last.optional }

/-- What a user says to open a session. -/
structure NewSession where
  topic : String
  /-- The configured model is taken when there is none. -/
  model : Option String
  channel : Option Int
  deriving Repr, DecidableEq, Inhabited

instance : Wire NewSession where
  encode s := .record [
    ("topic", Wire.encode s.topic),
    ("model", Wire.encode s.model),
    ("channel_id", Wire.encode s.channel)]
  decode v := do
    let [topic, model, channel] ← v.slots? ["topic", "model", "channel_id"] | none
    return {
      topic := ← topic.required
      model := ← model.optional
      channel := ← channel.optional }

end ChatLedger
