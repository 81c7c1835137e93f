import ChatLedger.Json.Wire

/-!
# Statistics

Figures over the live sessions and messages of a user, or over the messages of one session.
-/

namespace ChatLedger

/-- The quotient of two counts, and zero for a quotient by zero. -/
def average (sum count : UInt64) : Float := if count = 0 then 0.0 else sum.toFloat / count.toFloat

/-- Figures over the live sessions of a user. -/
structure SessionStats where
  sessions : UInt64 := 0
  activeSessions : UInt64 := 0
  messages : UInt64 := 0
  tokens : UInt64 := 0
  cost : Float := 0.0
  messagesPerSession : Float := 0.0
  deriving Repr, DecidableEq

instance : Wire SessionStats where
  encode s := .record [
    ("total_sessions", Wire.encode s.sessions),
    ("active_sessions", Wire.encode s.activeSessions),
    ("total_messages", Wire.encode s.messages),
    ("total_tokens", Wire.encode s.tokens),
    ("total_cost", Wire.encode s.cost),
    ("avg_messages_per_session", Wire.encode s.messagesPerSession)]
  decode v := do
    let [sessions, active, messages, tokens, cost, mean] ←
        v.slots? ["total_sessions", "active_sessions", "total_messages", "total_tokens",
          "total_cost", "avg_messages_per_session"]
      | none
    return {
      sessions := ← sessions.required
      activeSessions := ← active.required
      messages := ← messages.required
      tokens := ← tokens.required
      cost := ← cost.required
      messagesPerSession := ← mean.required }

/-- Figures over live messages. -/
structure MessageStats where
  messages : UInt64 := 0
  userMessages : UInt64 := 0
  assistantMessages : UInt64 := 0
  systemMessages : UInt64 := 0
  tokens : UInt64 := 0
  cost : Float := 0.0
  tokensPerMessage : Float := 0.0
  deriving Repr, DecidableEq

instance : Wire MessageStats where
  encode s := .record [
    ("total_messages", Wire.encode s.messages),
    ("user_messages", Wire.encode s.userMessages),
    ("assistant_messages", Wire.encode s.assistantMessages),
    ("system_messages", Wire.encode s.systemMessages),
    ("total_tokens", Wire.encode s.tokens),
    ("total_cost", Wire.encode s.cost),
    ("avg_tokens_per_message", Wire.encode s.tokensPerMessage)]
  decode v := do
    let [messages, user, assistant, system, tokens, cost, mean] ←
        v.slots? ["total_messages", "user_messages", "assistant_messages", "system_messages",
          "total_tokens", "total_cost", "avg_tokens_per_message"]
      | none
    return {
      messages := ← messages.required
      userMessages := ← user.required
      assistantMessages := ← assistant.required
      systemMessages := ← system.required
      tokens := ← tokens.required
      cost := ← cost.required
      tokensPerMessage := ← mean.required }

/-- How many sessions and messages a bulk deletion marked. -/
structure SessionsDeleted where
  sessions : UInt64 := 0
  messages : UInt64 := 0
  deriving Repr, DecidableEq

instance : Wire SessionsDeleted where
  encode d := .record [
    ("sessions", Wire.encode d.sessions),
    ("messages", Wire.encode d.messages)]
  decode v := do
    let [sessions, messages] ← v.slots? ["sessions", "messages"] | none
    return { sessions := ← sessions.required, messages := ← messages.required }

/-- Figures over the live sessions of a user that use one model. -/
structure ModelUsage where
  model : String
  sessions : UInt64
  messages : UInt64
  tokens : UInt64
  cost : Float
  deriving Repr, DecidableEq

instance : Wire ModelUsage where
  encode u := .record [
    ("model", Wire.encode u.model),
    ("session_count", Wire.encode u.sessions),
    ("message_count", Wire.encode u.messages),
    ("total_tokens", Wire.encode u.tokens),
    ("total_cost", Wire.encode u.cost)]
  decode v := do
    let [model, sessions, messages, tokens, cost] ←
        v.slots? ["model", "session_count", "message_count", "total_tokens", "total_cost"]
      | none
    return {
      model := ← model.required
      sessions := ← sessions.required
      messages := ← messages.required
      tokens := ← tokens.required
      cost := ← cost.required }

end ChatLedger
